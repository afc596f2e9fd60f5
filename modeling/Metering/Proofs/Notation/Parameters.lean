import Metering.Proofs.Notation.Tokens

/-! # Reading parameters

A parameter is told by its first characters, and an application among the parameters is left to
the reader of applications one level below.  `ReadsCalls` says of such a reader that it reads every
application of the grammar that is nested no deeper than its levels, fails with `Fault.tooDeep` on
the deeper ones, and accepts nothing else; reading a parameter inherits all three from it.

* `readParameter_append` — a parameter before a comma or a closing bracket is read;
* `readParameter_tooDeep` — an application that is nested too deep is met as such;
* `of_readParameter` — what is read is a parameter.
-/

namespace Metering.Notation

open Number (isDigit isBlank_of_isDigit minusSign)
open Text (isBlank skipBlanks)

/-- A reader of applications with `levels` levels left out of `most`. -/
structure ReadsCalls (most levels : Nat) (nested : Reader Expression) : Prop where
  complete : ∀ {b cs : List Char} {e : Expression} (rest : List Char), IsBlanks b → IsCall cs e →
    e.depth ≤ levels → nested.read (b ++ (cs ++ rest)) = .ok (e, rest)
  tooDeep : ∀ {b cs : List Char} {e : Expression} (rest : List Char), IsBlanks b → IsCall cs e →
    levels < e.depth →
    ∃ stop, nested.read (b ++ (cs ++ rest)) = .error stop ∧ stop.fault = .tooDeep most
  sound : ∀ {cs rest : List Char} {e : Expression}, nested.read cs = .ok (e, rest) →
    e.depth ≤ levels ∧ ∃ b used, cs = b ++ (used ++ rest) ∧ IsBlanks b ∧ IsCall used e

theorem depth_nested (e : Expression) : (Parameter.nested e).depth = e.depth := by
  rw [Parameter.nested, Parameter.depth, Expression.depth]

variable {most levels : Nat} {nested : Reader Expression} {b cs rest : List Char} {x : Float}

/-! ## First characters -/

section Heads

variable {c : Char}

theorem ne_of_isNameStart (h : isNameStart c = true) :
    beginsOperator c = false ∧ c ≠ '-' ∧ beginsNumber c = false ∧ c ≠ '(' := by
  have hother : c ≠ '\'' ∧ c ≠ '"' ∧ c ≠ '-' ∧ c ≠ '(' ∧ c ≠ '.' := by
    refine ⟨?_, ?_, ?_, ?_, ?_⟩ <;> rintro rfl <;> revert h <;> decide
  have hoperator : isOperatorChar c = false := isOperatorChar_of_kind h rfl
  have hdigit : isDigit c = false := by
    by_contra hdigit
    rw [Bool.not_eq_false] at hdigit
    have hrange : 48 ≤ c.val.toNat ∧ c.val.toNat ≤ 57 := by
      have hdigit : c.isDigit = true := hdigit
      simpa [Char.isDigit, UInt32.le_iff_toNat_le] using hdigit
    have hval : c.val.toNat = c.toNat := rfl
    simp only [isNameStart, Text.isLetter, Bool.or_eq_true, decide_eq_true_eq] at h
    rcases h with h | rfl
    · -- digits are no letters within ASCII, where the tables are not asked
      rw [if_pos (by omega)] at h
      simp only [Char.isAlpha, Char.isUpper, Char.isLower, Bool.or_eq_true, Bool.and_eq_true,
        decide_eq_true_eq, UInt32.le_iff_toNat_le, ge_iff_le] at h
      have hA : 'A'.val.toNat = 65 := rfl
      have ha : 'a'.val.toNat = 97 := rfl
      simp at h
      omega
    · revert hdigit
      decide
  exact ⟨by simp [beginsOperator, hother, hoperator], hother.2.2.1,
    by simp [beginsNumber, hother, hdigit], hother.2.2.2.1⟩

theorem ne_of_isDigit_or_point (h : isDigit c = true ∨ c = '.') :
    beginsOperator c = false ∧ isNameStart c = false ∧ beginsNumber c = true ∧ c ≠ '-' := by
  rcases h with h | rfl
  · have hname : isNameStart c = false := by
      by_contra hname
      rw [Bool.not_eq_false] at hname
      have hnumber := (ne_of_isNameStart hname).2.2.1
      simp [beginsNumber, h] at hnumber
    have hother : c ≠ '\'' ∧ c ≠ '"' ∧ c ≠ '-' := by
      refine ⟨?_, ?_, ?_⟩ <;> rintro rfl <;> revert h <;> decide
    have hoperator : isOperatorChar c = false := isOperatorChar_of_kind h rfl
    exact ⟨by simp [beginsOperator, hother, hoperator], hname, by simp [beginsNumber, h],
      hother.2.2⟩
  · decide

end Heads

theorem IsName.head {name : List Char} (h : IsName name) :
    ∃ c tail, name = c :: tail ∧ isNameStart c = true := by
  cases h with
  | intro hc _ => exact ⟨_, _, rfl, hc⟩

/-- How a number is told apart from a series with a minus. -/
theorem IsNumber.head (h : IsNumber cs x) (rest : List Char) :
    ∃ c tail, cs = c :: tail ∧ beginsOperator c = false ∧ beginsNumber c = true ∧
      (c = '-' → nameFollows (tail ++ rest) = false) ∧ isBlank c = false := by
  cases h with
  | @intro negative ds digits places _ hdecimal _ =>
    cases hds : ds with
    | nil => exact absurd hds hdecimal.ne_nil
    | cons c tail =>
      obtain ⟨hoperator, hname, hnumber, hminus⟩ := ne_of_isDigit_or_point
        (hdecimal.head c (by rw [hds]; rfl))
      have hblank := isBlank_of_isDecimal hdecimal c (by rw [hds]; rfl)
      cases negative with
      | true => exact ⟨'-', c :: tail, rfl, by decide, by decide, fun _ => hname, by decide⟩
      | false => exact ⟨c, tail, rfl, hoperator, hnumber, fun h => absurd h hminus, hblank⟩

theorem IsBlanks.delimited {c : Char} (hb : IsBlanks b) (hc : isDelimiter c = true)
    (cs : List Char) : Delimited (b ++ c :: cs) := by
  intro d hd
  cases b with
  | nil =>
    obtain rfl : c = d := Option.some.inj hd
    exact hc
  | cons e b =>
    obtain rfl : e = d := Option.some.inj hd
    simp [isDelimiter, hb e (List.mem_cons_self ..)]

theorem IsScale.delimited (h : IsScale cs x) (hrest : Closes rest) : Delimited (cs ++ rest) := by
  cases h with
  | absent => exact hrest.delimited
  | factor hb _ _ =>
    rw [List.append_assoc, List.cons_append]
    exact hb.delimited (by decide) _

/-! ## Parameters -/

theorem readSeries_append {name : List Char} (negative : Bool) (hname : IsName name)
    (hscale : IsScale cs x) (hrest : Closes rest) :
    ∃ left, readSeries negative (name ++ (cs ++ rest)) =
        .ok (.series (String.ofList name) (if negative then -x else x), left) ∧
      skipBlanks left = skipBlanks rest := by
  obtain ⟨left, hread, hleft⟩ := readScale_append hscale hrest
  refine ⟨left, ?_, hleft⟩
  have hword := readName_append isBlanks_nil hname (hscale.delimited hrest)
  rw [List.nil_append] at hword
  rw [readSeries, hword]
  dsimp only [bind, Except.bind]
  rw [hread]
  rfl

theorem readConstant_append (hnumber : IsNumber cs x) (hrest : Closes rest) :
    ∃ left, readConstant (cs ++ rest) = .ok (.constant x, left) ∧
      skipBlanks left = skipBlanks rest := by
  refine ⟨skipBlanks rest, ?_, skipBlanks_skipBlanks rest⟩
  have hread := readNumber_append isBlanks_nil hnumber hrest.delimited
  rw [List.nil_append] at hread
  obtain ⟨c, tail, hskip, hc⟩ := hrest.skipBlanks
  rw [readConstant, hread]
  dsimp only [bind, Except.bind]
  rw [hskip]
  rcases hc with rfl | rfl <;> rfl

theorem readConstant_append_name {b' name : List Char} (hnumber : IsNumber cs x) (hb : IsBlanks b)
    (hb' : IsBlanks b') (hname : IsName name) (hrest : Delimited rest) :
    readConstant (cs ++ (b ++ '*' :: (b' ++ (name ++ rest)))) =
      .ok (.series (String.ofList name) x, rest) := by
  have hstar : isDelimiter '*' = true := by decide
  have hread := readNumber_append isBlanks_nil hnumber (hb.delimited hstar (b' ++ (name ++ rest)))
  rw [List.nil_append] at hread
  rw [readConstant, hread]
  dsimp only [bind, Except.bind]
  rw [skipBlanks_append hb, skipBlanks_cons (by decide)]
  simp only [readName_append hb' hname hrest]
  rfl

/-- A parameter that begins with a name is a series or an application. -/
theorem IsName.readParameter {name : List Char} (h : IsName name) (hb : IsBlanks b) :
    readParameter nested (b ++ (name ++ rest)) = readNamed nested (name ++ rest) := by
  rw [Notation.readParameter, skipBlanks_append hb, h.skipBlanks]
  obtain ⟨c, tail, rfl, hstart⟩ := h.head
  obtain ⟨hoperator, hminus, hnumber, -⟩ := ne_of_isNameStart hstart
  rw [List.cons_append]
  dsimp only
  rw [if_neg (by simp [hoperator]), if_neg (by simp [hminus]), if_neg (by simp [hnumber]),
    if_pos hstart]

/-- A parameter that begins with a number is a constant or a multiple. -/
theorem IsNumber.readParameter (h : IsNumber cs x) (hb : IsBlanks b) :
    readParameter nested (b ++ (cs ++ rest)) = readConstant (cs ++ rest) := by
  rw [Notation.readParameter, skipBlanks_append hb, h.skipBlanks]
  obtain ⟨c, tail, rfl, hoperator, hbegins, hfollows, -⟩ := h.head rest
  rw [List.cons_append]
  dsimp only
  rw [if_neg (by simp [hoperator]), if_neg (by simpa using hfollows), if_pos hbegins]

/-- Neither a scale nor what closes a parameter begins with a bracket. -/
theorem IsScale.not_bracket (h : IsScale cs x) (hrest : Closes rest) (tail : List Char) :
    skipBlanks (cs ++ rest) ≠ '(' :: tail := by
  intro heq
  cases h with
  | absent =>
    obtain ⟨c, tail, hskip, hc⟩ := hrest.skipBlanks
    rw [List.nil_append, hskip] at heq
    rcases hc with rfl | rfl <;> cases heq
  | factor hb _ _ =>
    rw [List.append_assoc, List.cons_append, skipBlanks_append hb,
      skipBlanks_cons (by decide)] at heq
    cases heq

theorem readNamed_of_isScale {name : List Char} (hname : IsName name) (hscale : IsScale cs x)
    (hrest : Closes rest) :
    readNamed nested (name ++ (cs ++ rest)) = readSeries false (name ++ (cs ++ rest)) := by
  have hword := readName_append isBlanks_nil hname (hscale.delimited hrest)
  rw [List.nil_append] at hword
  rw [readNamed, hword]
  dsimp only [bind, Except.bind]
  split
  · next heq => exact absurd heq (hscale.not_bracket hrest _)
  · rfl

/-- An application among the parameters is left to the reader of applications. -/
theorem readParameter_of_isCall {e : Expression} (hb : IsBlanks b) (h : IsCall cs e) :
    readParameter nested (b ++ (cs ++ rest)) =
      (nested.read (cs ++ rest)).map fun read => (.nested read.1, read.2) := by
  cases h with
  | @intro name b₁ b₂ ds b₃ ps hname hb₁ _ _ _ =>
    simp only [List.append_assoc, List.cons_append, List.nil_append]
    have hbracket : isDelimiter '(' = true := by decide
    have hword := readName_append isBlanks_nil hname
      (hb₁.delimited hbracket (b₂ ++ (ds ++ (b₃ ++ ')' :: rest))))
    rw [List.nil_append] at hword
    rw [hname.readParameter hb, readNamed, hword]
    dsimp only [bind, Except.bind]
    rw [skipBlanks_append hb₁, skipBlanks_cons (by decide)]
    cases nested.read (name ++ (b₁ ++ '(' :: (b₂ ++ (ds ++ (b₃ ++ ')' :: rest))))) <;> rfl

/-- What is left after a parameter may lack the blanks before the comma or the bracket. -/
theorem readParameter_append {p : Parameter} (hnested : ReadsCalls most levels nested)
    (hb : IsBlanks b) (h : IsParameter cs p) (hdepth : p.depth ≤ levels) (hrest : Closes rest) :
    ∃ left, readParameter nested (b ++ (cs ++ rest)) = .ok (p, left) ∧
      skipBlanks left = skipBlanks rest := by
  cases h with
  | @operator _ symbol hoperator =>
    have hread := readOperator_append isBlanks_nil hoperator hrest.delimited
    obtain ⟨c, tail, rfl, hc, hblank⟩ := hoperator.head
    refine ⟨rest, ?_, rfl⟩
    rw [List.nil_append, List.cons_append] at hread
    rw [readParameter, skipBlanks_append hb, List.cons_append, skipBlanks_cons hblank]
    dsimp only
    rw [if_pos hc, hread]
  | @negated name ds _ hname hscale =>
    obtain ⟨left, hread, hleft⟩ := readSeries_append true hname hscale hrest
    have hfollows : nameFollows (name ++ (ds ++ rest)) = true := by
      obtain ⟨c, tail, rfl, hc⟩ := hname.head
      exact hc
    refine ⟨left, ?_, hleft⟩
    rw [readParameter, skipBlanks_append hb, List.cons_append, List.append_assoc,
      skipBlanks_cons (by decide)]
    dsimp only
    rw [if_neg (by decide), if_pos (by rw [hfollows]; rfl), hread]
    rfl
  | constant hnumber =>
    rw [hnumber.readParameter hb]
    exact readConstant_append hnumber hrest
  | multiple hnumber hb₁ hb₂ hname =>
    have hread := readConstant_append_name hnumber hb₁ hb₂ hname hrest.delimited
    refine ⟨rest, ?_, rfl⟩
    simp only [List.append_assoc, List.cons_append] at hread ⊢
    rw [hnumber.readParameter hb, hread]
  | series hname hscale =>
    obtain ⟨left, hread, hleft⟩ := readSeries_append false hname hscale hrest
    refine ⟨left, ?_, hleft⟩
    rw [List.append_assoc, hname.readParameter hb, readNamed_of_isScale hname hscale hrest, hread]
    rfl
  | call hcall =>
    rw [depth_nested] at hdepth
    have hread := hnested.complete rest isBlanks_nil hcall hdepth
    rw [List.nil_append] at hread
    refine ⟨rest, ?_, rfl⟩
    rw [readParameter_of_isCall hb hcall, hread]
    rfl

/-- An application that is nested too deep is met as such. -/
theorem readParameter_tooDeep {p : Parameter} (hnested : ReadsCalls most levels nested)
    (hb : IsBlanks b) (h : IsParameter cs p) (hdepth : levels < p.depth) (rest : List Char) :
    ∃ stop, readParameter nested (b ++ (cs ++ rest)) = .error stop ∧
      stop.fault = .tooDeep most := by
  cases h with
  | @call _ e hcall =>
    rw [depth_nested] at hdepth
    obtain ⟨stop, hread, hfault⟩ := hnested.tooDeep rest isBlanks_nil hcall hdepth
    rw [List.nil_append] at hread
    refine ⟨stop, ?_, hfault⟩
    rw [readParameter_of_isCall hb hcall, hread]
    rfl
  | operator | negated | constant | multiple | series =>
    exact absurd hdepth (by simp [Parameter.depth])

theorem of_readSeries {negative : Bool} {p : Parameter}
    (h : readSeries negative cs = .ok (p, rest)) :
    ∃ b name ds b' x, cs = b ++ (name ++ (ds ++ (b' ++ rest))) ∧ IsBlanks b ∧ IsName name ∧
      IsScale ds x ∧ IsBlanks b' ∧
      p = .series (String.ofList name) (if negative then -x else x) := by
  simp only [readSeries, bind, Except.bind, pure, Except.pure] at h
  split at h
  · cases h
  · next read hname =>
    split at h
    · cases h
    · next scaled hscale =>
      simp only [Except.ok.injEq, Prod.mk.injEq] at h
      obtain ⟨rfl, rfl⟩ := h
      obtain ⟨b, name, hcs, hb, hword, hread⟩ := of_readName hname
      obtain ⟨ds, b', hafter, hds, hb'⟩ := of_readScale hscale
      exact ⟨b, name, ds, b', scaled.1, by rw [hcs, hafter], hb, hword, hds, hb', by rw [hread]⟩

theorem of_readConstant {p : Parameter} (h : readConstant cs = .ok (p, rest)) :
    ∃ b used b', cs = b ++ (used ++ (b' ++ rest)) ∧ IsBlanks b ∧ IsParameter used p ∧
      IsBlanks b' ∧ p.depth = 0 := by
  simp only [readConstant, bind, Except.bind, pure, Except.pure] at h
  split at h
  · cases h
  · next read hnumber =>
    obtain ⟨b, ds, rfl, hb, hds⟩ := of_readNumber hnumber
    obtain ⟨b₁, hb₁, hafter⟩ := exists_blanks read.2
    split at h
    · next tail hskip =>
      split at h
      · cases h
      · next named hname =>
        simp only [Except.ok.injEq, Prod.mk.injEq] at h
        obtain ⟨rfl, rfl⟩ := h
        obtain ⟨b₂, name, rfl, hb₂, hword, hread⟩ := of_readName hname
        refine ⟨b, ds ++ (b₁ ++ '*' :: (b₂ ++ name)), [], ?_, hb, ?_, isBlanks_nil, rfl⟩
        · rw [hafter, hskip]
          simp
        · rw [hread]
          exact .multiple hds hb₁ hb₂ hword
    · simp only [Except.ok.injEq, Prod.mk.injEq] at h
      obtain ⟨rfl, rfl⟩ := h
      exact ⟨b, ds, b₁, by rw [← hafter], hb, .constant hds, hb₁, rfl⟩

theorem of_readNamed {p : Parameter} (hnested : ReadsCalls most levels nested)
    (h : readNamed nested cs = .ok (p, rest)) :
    ∃ b used b', cs = b ++ (used ++ (b' ++ rest)) ∧ IsBlanks b ∧ IsParameter used p ∧
      IsBlanks b' ∧ p.depth ≤ levels := by
  simp only [readNamed, bind, Except.bind, pure, Except.pure] at h
  split at h
  · cases h
  split at h
  · split at h
    · cases h
    · next read hread =>
      simp only [Except.ok.injEq, Prod.mk.injEq] at h
      obtain ⟨rfl, rfl⟩ := h
      obtain ⟨hdepth, b, used, hcs, hb, hused⟩ := hnested.sound hread
      exact ⟨b, used, [], hcs, hb, .call hused, isBlanks_nil, by rwa [depth_nested]⟩
  · obtain ⟨b, name, ds, b', x, hcs, hb, hname, hds, hb', rfl⟩ := of_readSeries h
    refine ⟨b, name ++ ds, b', ?_, hb, .series hname hds, hb', Nat.zero_le _⟩
    rw [hcs, List.append_assoc]

/-- A minus is read as that of a series only if the name stands directly after it. -/
theorem of_readSeries_negated {p : Parameter} (hfollows : nameFollows cs = true)
    (h : readSeries true cs = .ok (p, rest)) :
    ∃ used b', '-' :: cs = used ++ (b' ++ rest) ∧ IsParameter used p ∧ IsBlanks b' ∧
      p.depth = 0 := by
  obtain ⟨b, name, ds, b', x, rfl, hb, hname, hds, hb', rfl⟩ := of_readSeries h
  refine ⟨'-' :: (name ++ ds), b', ?_, .negated hname hds, hb', rfl⟩
  cases b with
  | nil => simp
  | cons c b =>
    have hblank := hb c (List.mem_cons_self ..)
    have hstart : isNameStart c = true := hfollows
    rw [isBlank_of_isNameChar (isNameChar_of_isNameStart hstart)] at hblank
    cases hblank

/-- Whatever is read as a parameter is one, up to blanks before and after it. -/
theorem of_readParameter {p : Parameter} (hnested : ReadsCalls most levels nested)
    (h : readParameter nested cs = .ok (p, rest)) :
    ∃ b used b', cs = b ++ (used ++ (b' ++ rest)) ∧ IsBlanks b ∧ IsParameter used p ∧
      IsBlanks b' ∧ p.depth ≤ levels := by
  obtain ⟨b, hb, hcs⟩ := exists_blanks cs
  -- it is enough to find the parameter where the blanks at the front end
  suffices hafter : ∃ b₁ used b', skipBlanks cs = b₁ ++ (used ++ (b' ++ rest)) ∧ IsBlanks b₁ ∧
      IsParameter used p ∧ IsBlanks b' ∧ p.depth ≤ levels by
    obtain ⟨b₁, used, b', heq, hb₁, hused, hb', hdepth⟩ := hafter
    refine ⟨b ++ b₁, used, b', ?_, hb.append hb₁, hused, hb', hdepth⟩
    rw [List.append_assoc, ← heq]
    exact hcs
  rw [readParameter] at h
  split at h
  · next c tail hskip =>
    rw [hskip]
    split at h
    · obtain ⟨b₁, used, symbol, heq, hb₁, hused, rfl⟩ := of_readOperator h
      exact ⟨b₁, used, [], heq, hb₁, .operator hused, isBlanks_nil, Nat.zero_le _⟩
    split at h
    · next hminus =>
      simp only [Bool.and_eq_true, decide_eq_true_eq] at hminus
      obtain ⟨rfl, hfollows⟩ := hminus
      obtain ⟨used, b', heq, hused, hb', hdepth⟩ := of_readSeries_negated hfollows h
      exact ⟨[], used, b', heq, isBlanks_nil, hused, hb', by omega⟩
    split at h
    · obtain ⟨b₁, used, b', heq, hb₁, hused, hb', hdepth⟩ := of_readConstant h
      exact ⟨b₁, used, b', heq, hb₁, hused, hb', by omega⟩
    split at h
    · exact of_readNamed hnested h
    · cases h
  · cases h

end Metering.Notation
