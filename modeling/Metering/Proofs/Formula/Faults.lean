import Metering.Proofs.Evaluation.Policies
import Metering.Proofs.Formula.Rules

/-!
# The first fault of an expression

The check passes exactly the expressions in which no rule is broken, and reports the first broken
rule of any other.  Each of its steps is about the places at some turns of a node; run one after the
other, they report the first fault of all their places.

* `Place.Within` — the places at some turns of a node
* `Reports` — an outcome reports the first fault among such places
* `Reports.bind` — two steps one after the other
* `reports_checkNode`, `reports_checkKind`, `Parameter.reports_validate` — the steps of the check
* `Expression.validate_reports_first` — the check reports the first fault of a tree
-/

namespace Metering

/-! ## Places at a node -/

section Within

variable {place other : Place} {base : NodePath} {turns turns' : Nat → Prop}

/-- The first turn on the way that is left to a rule. -/
def headTurn : NodePath → Rule → Nat
  | [], rule => rule.turn
  | i :: _, _ => descent i

/-- A place is at a node or below it, and its turn there is one of some. -/
def Place.Within (base : NodePath) (turns : Nat → Prop) (place : Place) : Prop :=
  ∃ rest, place.path = base ++ rest ∧ turns (headTurn rest place.rule)

theorem Place.turns_of_path {rest : NodePath} (way : place.path = base ++ rest) :
    ∃ tail, place.turns = base.map descent ++ headTurn rest place.rule :: tail := by
  rw [turns, way, List.map_append, List.append_assoc]
  cases rest with
  | nil => exact ⟨[], rfl⟩
  | cons i rest => exact ⟨rest.map descent ++ [place.rule.turn], rfl⟩

/-- Turns that are not for what is below a node are those of its own rules. -/
theorem Place.Within.here (within : place.Within base turns) (own : ∀ i, ¬ turns (descent i)) :
    place.path = base ∧ turns place.rule.turn := by
  obtain ⟨rest, way, turn⟩ := within
  cases rest with
  | nil => exact ⟨way.trans (List.append_nil base), turn⟩
  | cons i rest => exact absurd turn (own i)

/-- Places at or below one node are in the order of their turns there. -/
theorem Place.Within.before (first : place.Within base turns) (second : other.Within base turns')
    (apart : ∀ m n, turns m → turns' n → m < n) : place.Before other := by
  obtain ⟨rest, way, turn⟩ := first
  obtain ⟨rest', way', turn'⟩ := second
  obtain ⟨tail, hturns⟩ := turns_of_path way
  obtain ⟨tail', hturns'⟩ := turns_of_path way'
  rw [Before, hturns, hturns']
  exact List.append_left_lt (.rel (apart _ _ turn turn'))

theorem Place.within_append {i : Nat} :
    place.Within (base ++ [i]) (fun _ => True) ↔ place.Within base (· = descent i) := by
  constructor
  · rintro ⟨rest, way, -⟩
    exact ⟨i :: rest, by rw [way, List.append_assoc]; rfl, rfl⟩
  · rintro ⟨rest, way, turn⟩
    cases rest with
    | nil =>
      -- no rule of a node has the turn of what is below the node
      cases rule : place.rule <;> simp only [headTurn, descent, rule, Rule.turn] at turn <;> omega
    | cons j rest =>
      obtain rfl : j = i := by simpa [headTurn, descent] using turn
      exact ⟨rest, by rw [way, List.append_assoc]; rfl, trivial⟩

end Within

/-! ## Reports -/

section Reports

variable {inputs : List String} {options : EvaluationOptions} {root : Parameter}
  {base base' : NodePath} {turns turns' : Nat → Prop} {r s : Except Error Unit}

/-- An outcome reports the first rule that is broken at some turns of a node, if one is. -/
structure Reports (inputs : List String) (options : EvaluationOptions) (root : Parameter)
    (base : NodePath) (turns : Nat → Prop) (r : Except Error Unit) : Prop where
  ok : r = .ok () → ∀ place e, place.Within base turns → ¬ Broken inputs options root place e
  error : ∀ e, r = .error e → ∃ place, place.Within base turns ∧
    Broken inputs options root place e ∧
      ∀ other e', other.Within base turns → Broken inputs options root other e' →
        ¬ other.Before place

namespace Reports

theorem sound (none : ∀ place e, place.Within base turns → ¬ Broken inputs options root place e) :
    Reports inputs options root base turns (.ok ()) where
  ok _ := none
  error _ h := nomatch h

theorem first {place : Place} {e : Error} (within : place.Within base turns)
    (broken : Broken inputs options root place e)
    (others : ∀ other e', other.Within base turns → Broken inputs options root other e' →
      other = place ∨ place.Before other) : Reports inputs options root base turns (.error e) where
  ok h := nomatch h
  error _ h := by
    cases h
    refine ⟨place, within, broken, fun other e' within' broken' => ?_⟩
    rcases others other e' within' broken' with rfl | later
    · exact Place.not_before_self
    · exact later.not_before

theorem congr (reports : Reports inputs options root base turns r)
    (same : ∀ place : Place, place.Within base turns ↔ place.Within base' turns') :
    Reports inputs options root base' turns' r where
  ok h place e within broken := reports.ok h place e ((same place).2 within) broken
  error e h := by
    obtain ⟨place, within, broken, first⟩ := reports.error e h
    exact ⟨place, (same place).1 within, broken, fun other e' within' broken' =>
      first other e' ((same other).2 within') broken'⟩

/-- What is looked at later is reported only if nothing before it is. -/
theorem bind (first : Reports inputs options root base turns r)
    (second : Reports inputs options root base turns' s)
    (apart : ∀ m n, turns m → turns' n → m < n) :
    Reports inputs options root base (fun n => turns n ∨ turns' n) (r >>= fun _ => s) := by
  have split : ∀ place : Place, place.Within base (fun n => turns n ∨ turns' n) ↔
      place.Within base turns ∨ place.Within base turns' := fun place => by
    simp only [Place.Within, and_or_left, exists_or]
  cases r with
  | error e =>
    refine ⟨nofun, fun e' h => ?_⟩
    cases h
    obtain ⟨place, within, broken, earliest⟩ := first.error e rfl
    refine ⟨place, (split place).2 (.inl within), broken, fun other e' within' broken' => ?_⟩
    cases (split other).1 within' with
    | inl within' => exact earliest other e' within' broken'
    | inr within' => exact (within.before within' apart).not_before
  | ok _ =>
    have none := first.ok rfl
    refine ⟨fun h place e within broken => ?_, fun e h => ?_⟩
    · cases (split place).1 within with
      | inl within => exact none place e within broken
      | inr within => exact second.ok h place e within broken
    · obtain ⟨place, within, broken, earliest⟩ := second.error e h
      refine ⟨place, (split place).2 (.inr within), broken, fun other e' within' broken' => ?_⟩
      cases (split other).1 within' with
      | inl within' => exact absurd broken' (none other e' within')
      | inr within' => exact earliest other e' within' broken'

end Reports

/-! ## Checks of one node -/

section Node

variable {function : Function} {parameters : List Parameter} {description : Option String}
  {place : Place} {e : Error}

theorem Broken.node (found : root.at? base = some (.call function parameters description))
    (within : place.Within base (· < 4)) (broken : Broken inputs options root place e) :
    (place = ⟨base, .depth⟩ ∧ options.maxDepth < base.length + 1) ∨
      (place = ⟨base, .count⟩ ∧ ∃ arity, function.arity? = some arity ∧
        arity.accepts parameters.length = false) ∨
      (place = ⟨base, .function⟩ ∧ function.arity? = none ∧ options.policy = .strict) := by
  obtain ⟨way, turn⟩ := within.here fun i => by simp only [descent]; omega
  cases broken with
  | depth _ deep =>
    cases way
    exact .inl ⟨rfl, deep⟩
  | count found' known refused =>
    cases way
    cases found.symm.trans found'
    exact .inr (.inl ⟨rfl, _, known, refused⟩)
  | function found' strict =>
    cases way
    cases found.symm.trans found'
    exact .inr (.inr ⟨rfl, rfl, strict⟩)
  | kind | comparator =>
    simp only [Rule.turn] at turn
    omega
  | reference found' =>
    cases way
    cases found.symm.trans found'

theorem reports_checkNode (found : root.at? base = some (.call function parameters description)) :
    Reports inputs options root base (· < 4)
      (checkNode options base (base.length + 1) function parameters.length) := by
  have here : ∀ rule : Rule, rule.turn < 4 → Place.Within base (· < 4) ⟨base, rule⟩ :=
    fun rule early => ⟨[], (List.append_nil base).symm, early⟩
  unfold checkNode
  split
  case isTrue deep =>
    refine .first (here .depth (by decide)) (.depth found deep) fun other e' within broken => ?_
    rcases broken.node found within with ⟨same, -⟩ | ⟨rfl, -⟩ | ⟨rfl, -⟩
    · exact .inl same
    · exact .inr (Place.before_of_turn (by decide))
    · exact .inr (Place.before_of_turn (by decide))
  case isFalse shallow =>
    split
    case h_1 arity known =>
      split
      case isTrue accepted =>
        refine .sound fun place e within broken => ?_
        rcases broken.node found within with ⟨-, deep⟩ | ⟨-, _, known', refused⟩ | ⟨-, none, -⟩
        · exact shallow deep
        · cases known.symm.trans known'
          simp [accepted] at refused
        · simp [known] at none
      case isFalse refused =>
        refine .first (here .count (by decide))
          (.count found known (Bool.of_not_eq_true refused)) fun other e' within broken => ?_
        rcases broken.node found within with ⟨-, deep⟩ | ⟨same, -⟩ | ⟨-, none, -⟩
        · exact absurd deep shallow
        · exact .inl same
        · simp [known] at none
    case h_2 none =>
      obtain ⟨name, rfl⟩ := Function.exists_unknown none
      split
      case isTrue strict =>
        refine .first (here .function (by decide)) (.function found strict)
          fun other e' within broken => ?_
        rcases broken.node found within with ⟨-, deep⟩ | ⟨-, _, known, -⟩ | ⟨same, -⟩
        · exact absurd deep shallow
        · simp [none] at known
        · exact .inl same
      case isFalse lenient =>
        refine .sound fun place e within broken => ?_
        rcases broken.node found within with ⟨-, deep⟩ | ⟨-, _, known, -⟩ | ⟨-, -, strict⟩
        · exact shallow deep
        · simp [none] at known
        · exact lenient strict

theorem Broken.parameter {i : Nat} {p : Parameter}
    (found : root.at? base = some (.call function parameters description))
    (member : parameters[i]? = some p) (within : place.Within base (· = 2 * i + 4))
    (broken : Broken inputs options root place e) :
    place = ⟨base, .kind i⟩ ∧
      ((∃ expected, function.Asks i expected ∧ expected.admits p.kind = false) ∨
        function = .conditional ∧ i = 1 ∧ ∃ symbol, p = .operator symbol ∧
          options.policy = .strict ∧ Comparator.ofSymbol? symbol = none) := by
  obtain ⟨way, turn⟩ := within.here fun j => by simp only [descent]; omega
  cases broken with
  | @kind _ _ _ _ j _ _ found' member' asked refused =>
    cases way
    cases found.symm.trans found'
    obtain rfl : j = i := by simpa [Rule.turn] using turn
    cases member.symm.trans member'
    exact ⟨rfl, .inl ⟨_, asked, refused⟩⟩
  | comparator found' member' strict unknown =>
    cases way
    cases found.symm.trans found'
    obtain rfl : i = 1 := by simpa [Rule.turn, eq_comm] using turn
    cases member.symm.trans member'
    exact ⟨rfl, .inr ⟨rfl, rfl, _, rfl, strict, unknown⟩⟩
  | depth | count | function | reference =>
    simp only [Rule.turn] at turn
    omega

/-- The check of an operator where one is asked for and found. -/
theorem reports_checkOperator {symbol : String}
    (found : root.at? base = some (.call .conditional parameters description))
    (member : parameters[1]? = some (.operator symbol)) :
    Reports inputs options root base (· = 2 * 1 + 4)
      (checkOperator options.policy base (.operator symbol)) := by
  rw [checkOperator]
  split
  case isTrue refused =>
    simp only [Bool.and_eq_true, decide_eq_true_eq, Option.isNone_iff_eq_none] at refused
    exact .first ⟨[], (List.append_nil base).symm, rfl⟩
      (.comparator found member refused.1 refused.2)
      fun other e' within broken => .inl (broken.parameter found member within).1
  case isFalse accepted =>
    simp only [Bool.and_eq_true, decide_eq_true_eq, Option.isNone_iff_eq_none] at accepted
    refine .sound fun place e within broken => ?_
    obtain ⟨-, ⟨expected, asked, refused⟩ | ⟨-, -, _, same, strict, unknown⟩⟩ :=
      broken.parameter found member within
    · simp [admits_operator asked rfl] at refused
    · cases same
      exact accepted ⟨strict, unknown⟩

theorem reports_checkKind {i : Nat} {p : Parameter}
    (found : root.at? base = some (.call function parameters description))
    (member : parameters[i]? = some p) :
    Reports inputs options root base (· = 2 * i + 4)
      (checkKind options.policy base function i p) := by
  unfold checkKind
  split
  case h_1 none =>
    refine .sound fun place e within broken => ?_
    obtain ⟨-, ⟨expected, asked, -⟩ | ⟨rfl, rfl, -⟩⟩ := broken.parameter found member within
    · simp [Function.expected?_eq_some_iff.2 asked] at none
    · cases none
  case h_2 expected listed =>
    split
    case isTrue admitted =>
      split
      case isTrue operator =>
        subst operator
        obtain ⟨symbol, rfl⟩ := exists_operator_of_admits admitted
        have asked := Function.expected?_eq_some_iff.1 listed
        cases asked
        exact reports_checkOperator found member
      case isFalse other =>
        refine .sound fun place e within broken => ?_
        obtain ⟨-, ⟨expected', asked, refused⟩ | ⟨rfl, rfl, -⟩⟩ :=
          broken.parameter found member within
        · cases listed.symm.trans (Function.expected?_eq_some_iff.2 asked)
          simp [admitted] at refused
        · cases listed
          exact other rfl
    case isFalse refused =>
      have asked := Function.expected?_eq_some_iff.1 listed
      exact .first ⟨[], (List.append_nil base).symm, rfl⟩
        (.kind found member asked (Bool.of_not_eq_true refused))
        fun other e' within broken => .inl (broken.parameter found member within).1

end Node

/-! ## Checks of whole trees -/

section Tree

/-- Of what is no application only a series can break a rule. -/
theorem Broken.leaf {p : Parameter} {place : Place} {e : Error} (found : root.at? base = some p)
    (leaf : p.children = [])
    (notCall : ∀ function parameters description, p ≠ .call function parameters description)
    (within : place.Within base fun _ => True) (broken : Broken inputs options root place e) :
    place = ⟨base, .reference⟩ ∧ ∃ name scale, p = .series name scale ∧ name ∉ inputs := by
  obtain ⟨rest, way, -⟩ := within
  have reached : ∀ {q}, root.at? place.path = some q → place.path = base ∧ p = q := by
    intro q found'
    rw [way, Parameter.at?_append found] at found'
    obtain ⟨rfl, same⟩ := Parameter.at?_of_leaf leaf found'
    exact ⟨way.trans (List.append_nil base), same⟩
  cases broken with
  | depth found' | count found' | function found' | kind found' | comparator found' =>
    exact absurd (reached found').2 (notCall _ _ _)
  | reference found' undeclared =>
    obtain ⟨rfl, same⟩ := reached found'
    exact ⟨rfl, _, _, same, undeclared⟩

theorem reports_validateFrom_nil {function : Function} {parameters : List Parameter}
    {description : Option String} {i : Nat}
    (found : root.at? base = some (.call function parameters description))
    (done : parameters.length ≤ i) :
    Reports inputs options root base (2 * i + 4 ≤ ·) (.ok ()) := by
  have none : ∀ {j p}, parameters[j]? = some p → 2 * i + 4 ≤ 2 * j + 5 → False := by
    intro j p member late
    have short := (List.getElem?_eq_some_iff.1 member).1
    omega
  refine .sound fun place e ⟨rest, way, turn⟩ broken => ?_
  cases rest with
  | nil =>
    rw [List.append_nil] at way
    cases broken with
    | kind found' member =>
      cases way
      cases found.symm.trans found'
      exact none member (Nat.le_succ_of_le turn)
    | comparator found' member =>
      cases way
      cases found.symm.trans found'
      exact none member (Nat.le_succ_of_le turn)
    | depth | count | function | reference =>
      simp only [headTurn, Rule.turn] at turn
      omega
  | cons j rest =>
    have reached : ∀ {q}, root.at? place.path ≠ some q := fun {q} found' => by
      rw [way, Parameter.at?_append found, Parameter.at?_cons] at found'
      obtain ⟨child, member, -⟩ := Option.bind_eq_some_iff.1 found'
      exact none member turn
    cases broken with
    | depth found' | count found' | function found' | kind found' | comparator found'
    | reference found' => exact reached found'

mutual

/-- The check of what stands at a path reports the first fault there or below. -/
theorem Parameter.reports_validate (p : Parameter) (base : NodePath)
    (found : root.at? base = some p) :
    Reports inputs options root base (fun _ => True)
      (p.validate inputs options base (base.length + 1)) := by
  match p with
  | .constant _ | .operator _ =>
    refine .sound fun place e within broken => ?_
    obtain ⟨-, _, _, same, -⟩ := broken.leaf found rfl nofun within
    cases same
  | .series name scale =>
    rw [Parameter.validate]
    split
    case isTrue declared =>
      refine .sound fun place e within broken => ?_
      obtain ⟨-, _, _, same, undeclared⟩ := broken.leaf found rfl nofun within
      cases same
      exact undeclared (List.contains_iff_mem.1 declared)
    case isFalse undeclared =>
      exact .first ⟨[], (List.append_nil base).symm, trivial⟩
        (.reference found (mt List.contains_iff_mem.2 undeclared))
        fun other e' within broken => .inl (broken.leaf found rfl nofun within).1
  | .call function parameters description =>
    rw [validate_call_eq]
    refine ((reports_checkNode found).bind (reports_validateFrom parameters base found 0 rfl)
      fun m n early late => Nat.lt_of_lt_of_le early late).congr fun place => ?_
    -- the turns of a node and of its parameters are all there are
    have all : (fun n => n < 4 ∨ 2 * 0 + 4 ≤ n) = fun _ => True := by
      funext n
      exact eq_true (Nat.lt_or_ge n 4)
    rw [all]
termination_by sizeOf p

/-- The check of the parameters of a node from a position on. -/
theorem reports_validateFrom (rest : List Parameter) (base : NodePath) {function : Function}
    {parameters : List Parameter} {description : Option String}
    (found : root.at? base = some (.call function parameters description)) (i : Nat)
    (suffix : parameters.drop i = rest) :
    Reports inputs options root base (2 * i + 4 ≤ ·)
      (validateFrom inputs options base (base.length + 1) function i rest) := by
  match rest with
  | [] => exact reports_validateFrom_nil found (List.drop_eq_nil_iff.1 suffix)
  | p :: rest =>
    have member : parameters[i]? = some p := by
      rw [← List.head?_drop, suffix, List.head?_cons]
    have below : root.at? (base ++ [i]) = some p := by
      rw [Parameter.at?_append found, Parameter.at?_cons, Parameter.children, member]
      rfl
    have suffix' : parameters.drop (i + 1) = rest := by
      rw [← List.tail_drop, suffix, List.tail_cons]
    have kind : Reports inputs options root base (· = 2 * i + 4)
        (checkKind options.policy base function i p) := reports_checkKind found member
    have tree := (p.reports_validate (base ++ [i]) below).congr fun _ => Place.within_append
    have others := reports_validateFrom rest base found (i + 1) suffix'
    -- the kind of a parameter has its turn before the parameter, that before the next one
    rw [List.length_append] at tree
    rw [validateFrom_cons_eq]
    refine (kind.bind (tree.bind others ?_) ?_).congr fun place => ?_
    · intro m n at_ late
      simp only [descent] at at_
      omega
    · intro m n at_ late
      simp only [descent] at late
      omega
    · have all : (fun n => n = 2 * i + 4 ∨ n = descent i ∨ 2 * (i + 1) + 4 ≤ n) =
          (2 * i + 4 ≤ ·) := by
        funext n
        simp only [descent, eq_iff_iff]
        omega
      rw [all]
termination_by sizeOf rest

end

end Tree

end Reports

/-! ## The first fault -/

/-- The check passes exactly the expressions in which no rule is broken.  Of any other it reports
the first fault: a rule that is broken at a place such that none is broken at a place before it.
Unless it is about the depth, the error carries the path of the place, whose text leads to no other
place. -/
theorem Expression.validate_reports_first (e : Expression) (inputs : List String)
    (options : EvaluationOptions) :
    (e.validate inputs options = .ok () ↔ e.WellFormed inputs options) ∧
    ∀ err, e.validate inputs options = .error err ↔
      ∃ place, Broken inputs options (Parameter.nested e) place err ∧
        (err = .depthExceeded options.maxDepth ∨ err.path? = some place.path ∧
          ∀ path : NodePath, path.text = place.path.text → path = place.path) ∧
        ∀ other err', Broken inputs options (Parameter.nested e) other err' →
          ¬ other.Before place := by
  have reports : Reports inputs options (Parameter.nested e) [] (fun _ => True)
      (e.validate inputs options) := Parameter.reports_validate (Parameter.nested e) [] rfl
  have everywhere : ∀ place : Place, place.Within [] fun _ => True :=
    fun place => ⟨place.path, rfl, trivial⟩
  refine ⟨⟨fun valid => ?_, fun wellFormed => ?_⟩, fun err => ⟨fun invalid => ?_, ?_⟩⟩
  · exact wellFormed_iff.2 fun place err => reports.ok valid place err (everywhere place)
  · cases outcome : e.validate inputs options with
    | ok _ => rfl
    | error err =>
      obtain ⟨place, -, broken, -⟩ := reports.error err outcome
      exact absurd broken (wellFormed_iff.1 wellFormed place err)
  · obtain ⟨place, -, broken, first⟩ := reports.error err invalid
    refine ⟨place, broken, ?_, fun other err' => first other err' (everywhere other)⟩
    exact broken.path?.imp_right fun path => ⟨path, fun _ => NodePath.text_injective⟩
  · rintro ⟨place, broken, -, first⟩
    cases outcome : e.validate inputs options with
    | ok _ => exact absurd broken (reports.ok outcome place err (everywhere place))
    | error err' =>
      obtain ⟨place', -, broken', first'⟩ := reports.error err' outcome
      have notBefore := first' place err (everywhere place) broken
      obtain rfl : place = place' := Place.eq_of_not_before notBefore (first place' err' broken')
      rw [broken.unique broken']

/-- An undeclared series comes before an unknown function further right. -/
example :
    let e : Expression :=
      ⟨.sum, [.call .round [.series "b" 1.0, .constant 2.0] none, .call (.unknown "X") [] none],
        none⟩
    e.validate ["a"] ⟨.strict, 2⟩ = .error (.unknownReference "b" (.node [0, 0])) :=
  rfl

end Metering
