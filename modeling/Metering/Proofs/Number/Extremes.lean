import Metering.Evaluation
import Metering.Proofs.Number.Negation
import Metering.Proofs.Number.Order

/-!
# Extremes of numbers

The extreme of some numbers is one of them that no other one exceeds, and it is a NaN only where all
of them are.  That says which number it is, up to the sign of a zero, so it does not matter in which
order the numbers are taken; nor does it matter how they are grouped, since picking is associative.

* `compare_of_number` — numbers are ordered like what they stand for, infinities included
* `Side` — the two ends of the order, with the number that is picked of two
* `Side.IsExtreme`, `SameNumber` — the extreme of some numbers, and when two numbers are the same
* `Side.isExtreme_extreme`, `Side.IsExtreme.same` — the extreme of a list is one, and the only one
* `Side.extreme_append` — the extreme of two lists is that of their extremes
* `Side.extreme_neg` — negation turns the order over
-/

namespace Metering.Number

open Float.Model (UnpackedFloat)

/-! ## Comparing numbers -/

section Comparison

variable {x y : Float}

theorem abs_exactValue (x : Float) : |exactValue x| = valueOf (magnitudeOf x) := by
  have nonneg := valueOf_nonneg (magnitudeOf x)
  unfold exactValue
  cases isNegative x with
  | true => rw [signed_true, abs_neg, abs_of_nonneg nonneg]
  | false => rw [signed_false, abs_of_nonneg nonneg]

theorem abs_exactValue_lt (finite : x.isFinite = true) :
    |exactValue x| < valueOf infiniteMagnitude := by
  rw [abs_exactValue]
  exact valueOf_strictMono (isFinite_iff.1 finite)

theorem exactValue_neg (number : x.isNaN = false) : exactValue (-x) = -exactValue x := by
  rw [exactValue, exactValue, isNegative_neg number, magnitudeOf_neg]
  cases isNegative x with
  | true => rw [Bool.not_true, signed_true, signed_false, neg_neg]
  | false => rw [Bool.not_false, signed_true, signed_false]

/-- A number that is not finite is told from the finite ones by its sign. -/
theorem compare_infinity_left (negative : Bool) (finite : y.isFinite = true) :
    UnpackedFloat.compare (.infinity (signOf negative)) y.toModel.unpack =
      some (if negative then .lt else .gt) := by
  rcases Nat.eq_zero_or_pos (magnitudeOf y) with zero | pos
  · rw [unpack_of_zero finite zero]
    cases negative <;> rfl
  · rw [unpack_of_pos finite pos]
    cases negative <;> rfl

theorem compare_infinity_right (negative : Bool) (finite : x.isFinite = true) :
    UnpackedFloat.compare x.toModel.unpack (.infinity (signOf negative)) =
      some (if negative then .gt else .lt) := by
  rcases Nat.eq_zero_or_pos (magnitudeOf x) with zero | pos
  · rw [unpack_of_zero finite zero]
    cases negative <;> rfl
  · rw [unpack_of_pos finite pos]
    cases negative <;> rfl

/-- Numbers are ordered like what they stand for, where an infinity stands for a value beyond those
of all finite numbers. -/
theorem compare_of_number (hx : x.isNaN = false) (hy : y.isNaN = false) :
    x.toModel.unpack.compare y.toModel.unpack = some (compare (exactValue x) (exactValue y)) := by
  have xLe := isNaN_eq_false_iff.1 hx
  have yLe := isNaN_eq_false_iff.1 hy
  have infinite {z : Float} (large : magnitudeOf z = infiniteMagnitude) :
      exactValue z = signed (isNegative z) (valueOf infiniteMagnitude) := by
    rw [exactValue, large]
  have most : (0 : ℚ) < valueOf infiniteMagnitude := valueOf_pos (by decide)
  rcases Nat.lt_or_eq_of_le xLe with xSmall | xLarge
  · have xFinite := isFinite_iff.2 xSmall
    rcases Nat.lt_or_eq_of_le yLe with ySmall | yLarge
    · exact compare_unpack xFinite (isFinite_iff.2 ySmall)
    · obtain ⟨low, high⟩ := abs_lt.1 (abs_exactValue_lt xFinite)
      rw [unpack_of_infinite yLarge, compare_infinity_right _ xFinite, infinite yLarge]
      cases isNegative y with
      | true => rw [signed_true, compare_gt_iff_gt.2 low]; rfl
      | false => rw [signed_false, compare_lt_iff_lt.2 high]; rfl
  · rcases Nat.lt_or_eq_of_le yLe with ySmall | yLarge
    · have yFinite := isFinite_iff.2 ySmall
      obtain ⟨low, high⟩ := abs_lt.1 (abs_exactValue_lt yFinite)
      rw [unpack_of_infinite xLarge, compare_infinity_left _ yFinite, infinite xLarge]
      cases isNegative x with
      | true => rw [signed_true, compare_lt_iff_lt.2 low]; rfl
      | false => rw [signed_false, compare_gt_iff_gt.2 high]; rfl
    · rw [unpack_of_infinite xLarge, unpack_of_infinite yLarge, infinite xLarge, infinite yLarge]
      have less : -valueOf infiniteMagnitude < valueOf infiniteMagnitude := by linarith
      cases isNegative x <;> cases isNegative y
      · rw [signed_false, compare_eq_iff_eq.2 rfl]; rfl
      · rw [signed_false, signed_true, compare_gt_iff_gt.2 less]; rfl
      · rw [signed_false, signed_true, compare_lt_iff_lt.2 less]; rfl
      · rw [signed_true, compare_eq_iff_eq.2 rfl]; rfl

theorem compare_of_isNaN (nan : x.isNaN = true ∨ y.isNaN = true) :
    x.toModel.unpack.compare y.toModel.unpack = none := by
  rcases nan with nan | nan
  · rw [unpack_of_isNaN nan]
    rfl
  · rw [unpack_of_isNaN nan]
    cases x.toModel.unpack <;> rfl

theorem compare_eq_some_iff {order : Ordering} :
    x.toModel.unpack.compare y.toModel.unpack = some order ↔
      x.isNaN = false ∧ y.isNaN = false ∧ compare (exactValue x) (exactValue y) = order := by
  cases hx : x.isNaN with
  | true => simp [compare_of_isNaN (.inl hx)]
  | false =>
    cases hy : y.isNaN with
    | true => simp [compare_of_isNaN (.inr hy)]
    | false => simp [compare_of_number hx hy]

theorem lt_iff_numbers :
    x < y ↔ x.isNaN = false ∧ y.isNaN = false ∧ exactValue x < exactValue y := by
  change decide ((x.toModel.unpack.compare y.toModel.unpack == some .lt) = true) = true ↔ _
  rw [decide_eq_true_eq, beq_iff_eq, compare_eq_some_iff, compare_lt_iff_lt]

theorem beq_iff_numbers :
    (x == y) = true ↔ x.isNaN = false ∧ y.isNaN = false ∧ exactValue x = exactValue y := by
  change (x.toModel.unpack.compare y.toModel.unpack == some .eq) = true ↔ _
  rw [beq_iff_eq, compare_eq_some_iff, compare_eq_iff_eq]

theorem le_iff_numbers :
    x ≤ y ↔ x.isNaN = false ∧ y.isNaN = false ∧ exactValue x ≤ exactValue y := by
  have split : x ≤ y ↔ x < y ∨ (x == y) = true := by
    change
      decide (Option.any Ordering.isLE (x.toModel.unpack.compare y.toModel.unpack) = true) = true ↔
        decide ((x.toModel.unpack.compare y.toModel.unpack == some .lt) = true) = true ∨
          (x.toModel.unpack.compare y.toModel.unpack == some .eq) = true
    rcases x.toModel.unpack.compare y.toModel.unpack with _ | (_ | _ | _) <;> decide
  rw [split, lt_iff_numbers, beq_iff_numbers, le_iff_lt_or_eq]
  tauto

end Comparison

/-! ## The same number -/

/-- Two numbers are the same up to the sign of a zero. -/
def SameNumber (x y : Float) : Prop :=
  x.isNaN = true ∧ y.isNaN = true ∨ (x == y) = true

/-! ## The two ends -/

/-- The ends of the order of numbers. -/
inductive Side where
  | upper
  | lower

namespace Side

variable {side : Side} {v x y a b c : Float} {xs ys : List Float}

def opposite : Side → Side
  | upper => lower
  | lower => upper

/-- The one of two numbers that is nearer to the end. -/
def pick : Side → Float → Float → Float
  | upper => larger
  | lower => smaller

/-- The first number is nearer to the end than the second. -/
def Exceeds : Side → Float → Float → Prop
  | upper, v, x => x < v
  | lower, v, x => v < x

/-- What a number stands for, turned over for the lower end. -/
def rank : Side → Float → ℚ
  | upper, x => exactValue x
  | lower, x => -exactValue x

theorem exceeds_iff :
    side.Exceeds v x ↔ v.isNaN = false ∧ x.isNaN = false ∧ side.rank x < side.rank v := by
  cases side with
  | upper => exact lt_iff_numbers.trans and_left_comm
  | lower => exact lt_iff_numbers.trans (and_congr_right' (and_congr_right' neg_lt_neg_iff.symm))

theorem not_exceeds_iff :
    ¬ side.Exceeds v x ↔ (v.isNaN = false → x.isNaN = false → side.rank v ≤ side.rank x) := by
  rw [exceeds_iff, not_and, not_and]
  exact forall₂_congr fun _ _ => not_lt

theorem sameNumber_of_rank (hv : v.isNaN = false) (hx : x.isNaN = false)
    (same : side.rank v = side.rank x) : SameNumber v x := by
  refine .inr (beq_iff_numbers.2 ⟨hv, hx, ?_⟩)
  cases side with
  | upper => exact same
  | lower => exact neg_injective same

/-- A NaN is passed over, and of two numbers of one rank the second is taken. -/
theorem pick_eq (side : Side) (a b : Float) :
    side.pick a b =
      if a.isNaN = true ∨ b.isNaN = false ∧ side.rank a ≤ side.rank b then b else a := by
  cases side with
  | upper =>
    refine if_congr ?_ rfl rfl
    rw [Bool.or_eq_true, decide_eq_true_iff, le_iff_numbers]
    cases a.isNaN <;> simp [rank]
  | lower =>
    refine if_congr ?_ rfl rfl
    rw [Bool.or_eq_true, decide_eq_true_iff, le_iff_numbers]
    cases a.isNaN <;> simp [rank]

theorem pick_assoc (side : Side) (a b c : Float) :
    side.pick (side.pick a b) c = side.pick a (side.pick b c) := by
  simp only [pick_eq]
  -- what remains is a matter of which of the three are NaN and how their ranks compare
  generalize side.rank = rank
  grind

/-! ## Extremes of lists -/

/-- One of some numbers that no other one exceeds, and a NaN only if all of them are. -/
structure IsExtreme (side : Side) (xs : List Float) (x : Float) : Prop where
  mem : x ∈ xs
  unexceeded : ∀ v ∈ xs, ¬ side.Exceeds v x
  nan : x.isNaN = true → ∀ v ∈ xs, v.isNaN = true

theorem isExtreme_singleton (side : Side) (x : Float) : side.IsExtreme [x] x where
  mem := List.mem_singleton_self x
  unexceeded := by
    intro v member
    obtain rfl := List.mem_singleton.1 member
    exact not_exceeds_iff.2 fun _ _ => le_rfl
  nan := by
    intro nan v member
    obtain rfl := List.mem_singleton.1 member
    exact nan

theorem isExtreme_pick (side : Side) (a b : Float) : side.IsExtreme [a, b] (side.pick a b) := by
  rw [pick_eq]
  split
  · next taken =>
    refine ⟨by simp, ?_, fun nan => ?_⟩
    · refine List.forall_mem_cons.2 ⟨not_exceeds_iff.2 fun number _ => ?_,
        List.forall_mem_singleton.2 (not_exceeds_iff.2 fun _ _ => le_rfl)⟩
      rcases taken with nan | ⟨_, le⟩
      · exact absurd nan (ne_true_of_eq_false number)
      · exact le
    · rcases taken with nanA | ⟨number, _⟩
      · exact List.forall_mem_cons.2 ⟨nanA, List.forall_mem_singleton.2 nan⟩
      · exact absurd nan (ne_true_of_eq_false number)
  · next kept =>
    obtain ⟨number, less⟩ := not_or.1 kept
    refine ⟨by simp, ?_, fun nan => absurd nan number⟩
    refine List.forall_mem_cons.2 ⟨not_exceeds_iff.2 fun _ _ => le_rfl,
      List.forall_mem_singleton.2 (not_exceeds_iff.2 fun numberB _ => ?_)⟩
    exact (not_le.1 fun le => less ⟨numberB, le⟩).le

theorem IsExtreme.isNaN_eq_false (h : side.IsExtreme xs x) (member : v ∈ xs)
    (number : v.isNaN = false) : x.isNaN = false :=
  eq_false_of_ne_true fun nan => ne_true_of_eq_false number (h.nan nan v member)

/-- The extreme of the extreme of some numbers and of others is an extreme of all of them. -/
theorem IsExtreme.append (first : side.IsExtreme xs a) (whole : side.IsExtreme (a :: ys) x) :
    side.IsExtreme (xs ++ ys) x where
  mem := by
    rcases List.mem_cons.1 whole.mem with rfl | member
    · exact List.mem_append_left ys first.mem
    · exact List.mem_append_right xs member
  unexceeded := by
    have unexceeded := List.forall_mem_cons.1 whole.unexceeded
    refine List.forall_mem_append.2 ⟨fun v member => ?_, unexceeded.2⟩
    refine not_exceeds_iff.2 fun number numberX => ?_
    -- the first extreme stands between the two, unless it is a NaN like all of the first numbers
    have numberA := first.isNaN_eq_false member number
    calc
      side.rank v ≤ side.rank a := not_exceeds_iff.1 (first.unexceeded v member) number numberA
      _ ≤ side.rank x := not_exceeds_iff.1 unexceeded.1 numberA numberX
  nan := by
    intro nan
    obtain ⟨nanA, nanYs⟩ := List.forall_mem_cons.1 (whole.nan nan)
    exact List.forall_mem_append.2 ⟨first.nan nanA, nanYs⟩

theorem IsExtreme.perm (h : side.IsExtreme xs x) (same : ys.Perm xs) : side.IsExtreme ys x where
  mem := same.mem_iff.2 h.mem
  unexceeded v member := h.unexceeded v (same.mem_iff.1 member)
  nan nan v member := h.nan nan v (same.mem_iff.1 member)

/-- There is one extreme, up to the sign of a zero. -/
theorem IsExtreme.same (hx : side.IsExtreme xs x) (hy : side.IsExtreme xs y) : SameNumber x y := by
  cases numberX : x.isNaN with
  | true => exact .inl ⟨numberX, hx.nan numberX y hy.mem⟩
  | false =>
    have numberY := hy.isNaN_eq_false hx.mem numberX
    have le := not_exceeds_iff.1 (hy.unexceeded x hx.mem) numberX numberY
    have ge := not_exceeds_iff.1 (hx.unexceeded y hy.mem) numberY numberX
    exact sameNumber_of_rank numberX numberY (le_antisymm le ge)

theorem isExtreme_foldl (side : Side) (x : Float) (rest : List Float) :
    side.IsExtreme (x :: rest) (rest.foldl side.pick x) := by
  induction rest generalizing x with
  | nil => exact isExtreme_singleton side x
  | cons y rest ih => exact (isExtreme_pick side x y).append (ih (side.pick x y))

theorem isExtreme_extreme (side : Side) (hxs : xs ≠ []) :
    side.IsExtreme xs (extreme side.pick xs) := by
  cases xs with
  | nil => exact absurd rfl hxs
  | cons x rest => exact isExtreme_foldl side x rest

/-- The numbers may be taken in groups. -/
theorem extreme_append (side : Side) (hxs : xs ≠ []) (hys : ys ≠ []) :
    extreme side.pick (xs ++ ys) =
      side.pick (extreme side.pick xs) (extreme side.pick ys) := by
  have : Std.Associative side.pick := ⟨pick_assoc side⟩
  cases xs with
  | nil => exact absurd rfl hxs
  | cons x xs =>
    cases ys with
    | nil => exact absurd rfl hys
    | cons y ys =>
      -- past the first numbers, the run starts from their extreme
      change (xs ++ y :: ys).foldl side.pick x = _
      rw [List.foldl_append, List.foldl_cons, List.foldl_assoc]
      rfl

/-! ## Turned over -/

theorem rank_neg (number : x.isNaN = false) : side.opposite.rank (-x) = side.rank x := by
  cases side with
  | upper => exact (congrArg Neg.neg (exactValue_neg number)).trans (neg_neg _)
  | lower => exact exactValue_neg number

theorem pick_neg (side : Side) (a b : Float) :
    side.opposite.pick (-a) (-b) = -side.pick a b := by
  rw [pick_eq, pick_eq, isNaN_neg, isNaN_neg, apply_ite Neg.neg]
  cases nanA : a.isNaN with
  | true => simp
  | false =>
    cases nanB : b.isNaN with
    | true => simp
    | false => rw [rank_neg nanA, rank_neg nanB]

/-- The extreme of the negated numbers on one side is the negated one on the other. -/
theorem extreme_neg (side : Side) (hxs : xs ≠ []) :
    extreme side.opposite.pick (xs.map (-·)) = -extreme side.pick xs := by
  cases xs with
  | nil => exact absurd rfl hxs
  | cons x rest =>
    change (rest.map (-·)).foldl side.opposite.pick (-x) = -rest.foldl side.pick x
    rw [List.foldl_map]
    exact List.foldl_hom Neg.neg (pick_neg side)

end Side

end Metering.Number
