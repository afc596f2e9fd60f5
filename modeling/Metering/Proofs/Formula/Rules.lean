import Mathlib.Data.List.Basic
import Metering.Formula.Validation
import Metering.Proofs.Expression.Places

/-!
# The rules of the check

The rules of the check are stated one by one, each at the place of a tree that it is about, and the
places are put in order.

* `Function.Asks` — what the rules ask of the parameters of a function
* `Expression.WellFormed` — no rule is broken
* `Rule`, `Place`, `Place.Before` — what a rule is about, and which place is looked at first
* `Broken` — a rule is broken at a place, and the error that says so
* `Expression.wellFormed_iff` — a well-formed expression has no broken rule
-/

namespace Metering

/-! ## Rules -/

/-- The functions whose first parameter is a series. -/
def seriesFunctions : List Function :=
  [.shareAbove, .shareBelow, .seriesMaximum, .seriesMinimum]

/-- The functions whose second parameter is a constant. -/
def constantFunctions : List Function :=
  [.shareAbove, .shareBelow, .round]

/-- What the rules ask of the parameter at a position of a function; nothing if the function is
unknown. -/
inductive Function.Asks : Function → Nat → Expected → Prop where
  | operator : Asks .conditional 1 .operator
  | series {function : Function} (reads : function ∈ seriesFunctions) : Asks function 0 .series
  | constant {function : Function} (reads : function ∈ constantFunctions) :
      Asks function 1 .constant
  | number {function : Function} {i : Nat} (known : function.unknownName? = none)
      (notOperator : ¬ (function = .conditional ∧ i = 1))
      (notSeries : ¬ (function ∈ seriesFunctions ∧ i = 0))
      (notConstant : ¬ (function ∈ constantFunctions ∧ i = 1)) : Asks function i .number

theorem Function.expected?_eq_some_iff {function : Function} {i : Nat} {expected : Expected} :
    function.expected? i = some expected ↔ function.Asks i expected := by
  constructor
  · intro listed
    match function, i with
    | conditional, 1 =>
      cases listed
      exact .operator
    | shareAbove, 0 | shareBelow, 0 | seriesMaximum, 0 | seriesMinimum, 0 =>
      cases listed
      exact .series (by decide)
    | shareAbove, 1 | shareBelow, 1 | round, 1 =>
      cases listed
      exact .constant (by decide)
    | conditional, 0 | conditional, _ + 2 | sum, _ | maximum, _ | minimum, _ | shareAbove, _ + 2
    | shareBelow, _ + 2 | round, 0 | round, _ + 2 | seriesMaximum, _ + 1 | seriesMinimum, _ + 1 =>
      cases listed
      exact .number rfl (by simp) (by simp [seriesFunctions]) (by simp [constantFunctions])
    | unknown _, _ => cases listed
  · intro asked
    cases asked with
    | operator => rfl
    | series reads =>
      simp only [seriesFunctions, List.mem_cons, List.not_mem_nil, or_false] at reads
      rcases reads with rfl | rfl | rfl | rfl <;> rfl
    | constant reads =>
      simp only [constantFunctions, List.mem_cons, List.not_mem_nil, or_false] at reads
      rcases reads with rfl | rfl | rfl <;> rfl
    | number known notOperator notSeries notConstant =>
      match function, i with
      | conditional, 1 => simp at notOperator
      | shareAbove, 0 | shareBelow, 0 | seriesMaximum, 0 | seriesMinimum, 0 =>
        simp [seriesFunctions] at notSeries
      | shareAbove, 1 | shareBelow, 1 | round, 1 => simp [constantFunctions] at notConstant
      | conditional, 0 | conditional, _ + 2 | sum, _ | maximum, _ | minimum, _ | shareAbove, _ + 2
      | shareBelow, _ + 2 | round, 0 | round, _ + 2 | seriesMaximum, _ + 1
      | seriesMinimum, _ + 1 => rfl
      | unknown _, _ => cases known

theorem Function.exists_unknown {function : Function} (unknown : function.arity? = none) :
    ∃ name, function = .unknown name := by
  cases function with
  | unknown name => exact ⟨name, rfl⟩
  | _ => cases unknown

/-- No rule is broken anywhere in an expression over declared inputs. -/
structure Expression.WellFormed (e : Expression) (inputs : List String)
    (options : EvaluationOptions) : Prop where
  depth : e.depth ≤ options.maxDepth
  /-- Every known function has as many parameters as it takes. -/
  counts : ∀ path function parameters description arity,
    (Parameter.nested e).at? path = some (.call function parameters description) →
      function.arity? = some arity → arity.accepts parameters.length = true
  /-- The second parameter of a conditional is an operator, and no other parameter of a known
  function is one. -/
  operators : ∀ path function parameters description i p,
    (Parameter.nested e).at? path = some (.call function parameters description) →
      function.unknownName? = none → parameters[i]? = some p →
        (p.kind = .operator ↔ function = .conditional ∧ i = 1)
  series : ∀ path function parameters description p,
    (Parameter.nested e).at? path = some (.call function parameters description) →
      function ∈ seriesFunctions → parameters[0]? = some p → p.kind = .series
  constants : ∀ path function parameters description p,
    (Parameter.nested e).at? path = some (.call function parameters description) →
      function ∈ constantFunctions → parameters[1]? = some p → p.kind = .constant
  /-- Every series is declared, also below an unknown function. -/
  declared : ∀ path name scale,
    (Parameter.nested e).at? path = some (.series name scale) → name ∈ inputs
  functions : options.policy = .strict → ∀ path name parameters description,
    (Parameter.nested e).at? path ≠ some (.call (.unknown name) parameters description)
  comparators : options.policy = .strict → ∀ path parameters description symbol,
    (Parameter.nested e).at? path = some (.call .conditional parameters description) →
      parameters[1]? = some (.operator symbol) → Comparator.ofSymbol? symbol ≠ none

/-! ## Places and their order -/

/-- What a rule is about. -/
inductive Rule where
  /-- Whether a series is declared. -/
  | reference
  /-- How deep a node is. -/
  | depth
  /-- How many parameters a node has. -/
  | count
  /-- Whether the function of a node is known. -/
  | function
  /-- What the parameter at a position of a node is. -/
  | kind (i : Nat)

/-- A rule at the node or the series at a path. -/
structure Place where
  path : NodePath
  rule : Rule

/-- The turn of a rule among those of one node; the even ones from 4 on are for the kinds of its
parameters. -/
def Rule.turn : Rule → Nat
  | reference => 0
  | depth => 1
  | count => 2
  | function => 3
  | kind i => 2 * i + 4

/-- The turn of all that is below a node at a position: after the kind of the parameter there and
before the next parameter. -/
def descent (i : Nat) : Nat := 2 * i + 5

/-- The turns on the way to a place. -/
def Place.turns (place : Place) : List Nat :=
  place.path.map descent ++ [place.rule.turn]

/-- A place is looked at before another: the first turn in which the ways to them differ decides. -/
def Place.Before (place other : Place) : Prop :=
  List.Lex (· < ·) place.turns other.turns

/-! ## Faults -/

/-- The path that an error carries. -/
def Error.path? : Error → Option NodePath
  | arity _ (.node path) _ _ | parameterType _ (.node path) _ _ _ | unknownReference _ (.node path)
  | unsupportedFunction _ (.node path) | unknownComparator _ (.node path) => some path
  | _ => none

section Broken

variable (inputs : List String) (options : EvaluationOptions)

/-- A rule is broken at a place of a tree, and this is the error that says so. -/
inductive Broken (root : Parameter) : Place → Error → Prop where
  | depth {path : NodePath} {function : Function} {parameters : List Parameter}
      {description : Option String}
      (found : root.at? path = some (.call function parameters description))
      (deep : options.maxDepth < path.length + 1) :
      Broken root ⟨path, .depth⟩ (.depthExceeded options.maxDepth)
  | count {path : NodePath} {function : Function} {parameters : List Parameter}
      {description : Option String} {arity : Arity}
      (found : root.at? path = some (.call function parameters description))
      (known : function.arity? = some arity) (refused : arity.accepts parameters.length = false) :
      Broken root ⟨path, .count⟩ (.arity function (.node path) arity parameters.length)
  | function {path : NodePath} {name : String} {parameters : List Parameter}
      {description : Option String}
      (found : root.at? path = some (.call (.unknown name) parameters description))
      (strict : options.policy = .strict) :
      Broken root ⟨path, .function⟩ (.unsupportedFunction name (.node path))
  | kind {path : NodePath} {function : Function} {parameters : List Parameter}
      {description : Option String} {i : Nat} {p : Parameter} {expected : Expected}
      (found : root.at? path = some (.call function parameters description))
      (member : parameters[i]? = some p) (asked : function.Asks i expected)
      (refused : expected.admits p.kind = false) :
      Broken root ⟨path, .kind i⟩ (.parameterType function (.node path) i expected p.kind)
  | comparator {path : NodePath} {parameters : List Parameter} {description : Option String}
      {symbol : String}
      (found : root.at? path = some (.call .conditional parameters description))
      (member : parameters[1]? = some (.operator symbol)) (strict : options.policy = .strict)
      (unknown : Comparator.ofSymbol? symbol = none) :
      Broken root ⟨path, .kind 1⟩ (.unknownComparator symbol (.node path))
  | reference {path : NodePath} {name : String} {scale : Float}
      (found : root.at? path = some (.series name scale)) (undeclared : name ∉ inputs) :
      Broken root ⟨path, .reference⟩ (.unknownReference name (.node path))

end Broken

section Facts

variable {inputs : List String} {options : EvaluationOptions} {root : Parameter}
  {place : Place} {e e' : Error}

theorem Broken.path? (broken : Broken inputs options root place e) :
    e = .depthExceeded options.maxDepth ∨ e.path? = some place.path := by
  cases broken with
  | depth => exact .inl rfl
  | count | function | kind | comparator | reference => exact .inr rfl

theorem admits_operator {function : Function} {symbol : String} {expected : Expected}
    (asked : function.Asks 1 expected) (conditional : function = .conditional) :
    expected.admits (Parameter.operator symbol).kind = true := by
  subst conditional
  cases asked with
  | operator => rfl
  | constant reads => exact absurd reads (by decide)
  | number _ notOperator => exact absurd ⟨rfl, rfl⟩ notOperator

/-- At one place a rule is broken in one way only. -/
theorem Broken.unique (first : Broken inputs options root place e)
    (second : Broken inputs options root place e') : e = e' := by
  cases first with
  | depth => cases second; rfl
  | count found known =>
    cases second with
    | count found' known' =>
      cases found.symm.trans found'
      cases known.symm.trans known'
      rfl
  | function found =>
    cases second with
    | function found' =>
      cases found.symm.trans found'
      rfl
  | kind found member asked refused =>
    cases second with
    | kind found' member' asked' =>
      cases found.symm.trans found'
      cases member.symm.trans member'
      rw [← Function.expected?_eq_some_iff] at asked asked'
      cases asked.symm.trans asked'
      rfl
    | comparator found' member' =>
      cases found.symm.trans found'
      cases member.symm.trans member'
      simp [admits_operator asked rfl] at refused
  | comparator found member =>
    cases second with
    | kind found' member' asked refused =>
      cases found.symm.trans found'
      cases member.symm.trans member'
      simp [admits_operator asked rfl] at refused
    | comparator found' member' =>
      cases found.symm.trans found'
      cases member.symm.trans member'
      rfl
  | reference found =>
    cases second with
    | reference found' =>
      cases found.symm.trans found'
      rfl

/-- An expression is well-formed exactly if no rule is broken at any place of it. -/
theorem Expression.wellFormed_iff {e : Expression} :
    e.WellFormed inputs options ↔
      ∀ place err, ¬ Broken inputs options (Parameter.nested e) place err := by
  constructor
  · intro wellFormed place err broken
    cases broken with
    | depth found deep =>
      have shallow := Parameter.depth_le_iff.1 wellFormed.depth _ _ _ _ found
      omega
    | count found known refused => simp [wellFormed.counts _ _ _ _ _ found known] at refused
    | function found strict => exact wellFormed.functions strict _ _ _ _ found
    | kind found member asked refused =>
      cases asked with
      | operator =>
        have kind := (wellFormed.operators _ _ _ _ _ _ found rfl member).2 ⟨rfl, rfl⟩
        simp [Expected.admits, kind] at refused
      | series reads =>
        simp [Expected.admits, wellFormed.series _ _ _ _ _ found reads member] at refused
      | constant reads =>
        simp [Expected.admits, wellFormed.constants _ _ _ _ _ found reads member] at refused
      | number known notOperator =>
        have kind := mt (wellFormed.operators _ _ _ _ _ _ found known member).1 notOperator
        simp [Expected.admits, kind] at refused
    | comparator found member strict unknown =>
      exact wellFormed.comparators strict _ _ _ _ found member unknown
    | reference found undeclared => exact undeclared (wellFormed.declared _ _ _ found)
  · intro sound
    have asks : ∀ {path function parameters description i p expected},
        (Parameter.nested e).at? path = some (.call function parameters description) →
          parameters[i]? = some p → function.Asks i expected → expected.admits p.kind = true := by
      intro path function parameters description i p expected found member asked
      exact Bool.of_not_eq_false fun refused => sound _ _ (.kind found member asked refused)
    refine ⟨?_, ?_, ?_, ?_, ?_, ?_, ?_, ?_⟩
    · change (Parameter.nested e).depth ≤ options.maxDepth
      refine Parameter.depth_le_iff.2 fun path _ _ _ found => ?_
      exact Nat.not_lt.1 fun deep => sound _ _ (.depth found deep)
    · intro path function parameters description arity found known
      exact Bool.of_not_eq_false fun refused => sound _ _ (.count found known refused)
    · intro path function parameters description i p found known member
      refine ⟨fun kind => ?_, fun second => ?_⟩
      · -- an operator is not a number, nor what else a known function may ask for
        by_contra notOperator
        have asked : ∃ expected, function.Asks i expected ∧ expected ≠ .operator := by
          by_cases reads : function ∈ seriesFunctions ∧ i = 0
          · obtain ⟨reads, rfl⟩ := reads
            exact ⟨_, .series reads, nofun⟩
          · by_cases reads' : function ∈ constantFunctions ∧ i = 1
            · obtain ⟨reads', rfl⟩ := reads'
              exact ⟨_, .constant reads', nofun⟩
            · exact ⟨_, .number known notOperator reads reads', nofun⟩
        obtain ⟨expected, asked, other⟩ := asked
        have admitted := asks found member asked
        rw [kind] at admitted
        cases expected <;> simp [Expected.admits] at admitted other
      · obtain ⟨rfl, rfl⟩ := second
        simpa [Expected.admits] using asks found member .operator
    · intro path function parameters description p found reads member
      simpa [Expected.admits] using asks found member (.series reads)
    · intro path function parameters description p found reads member
      simpa [Expected.admits] using asks found member (.constant reads)
    · intro path name scale found
      by_contra undeclared
      exact sound _ _ (.reference found undeclared)
    · intro strict path name parameters description found
      exact sound _ _ (.function found strict)
    · intro strict path parameters description symbol found member unknown
      exact sound _ _ (.comparator found member strict unknown)

end Facts

/-! ## Order -/

section Order

variable {place other : Place} {path : NodePath}

theorem Rule.eq_of_turn {rule rule' : Rule} (same : rule.turn = rule'.turn) : rule = rule' := by
  cases rule <;> cases rule' <;> grind [turn]

theorem Place.not_before_self : ¬ place.Before place :=
  List.lex_irrefl Nat.lt_irrefl _

theorem Place.Before.not_before (before : place.Before other) : ¬ other.Before place :=
  List.lex_asymm (fun less => Nat.lt_asymm less) before

theorem Place.before_of_turn {rule rule' : Rule} (less : rule.turn < rule'.turn) :
    Place.Before ⟨path, rule⟩ ⟨path, rule'⟩ :=
  List.append_left_lt (.rel less)

/-- Of two different places one is before the other. -/
theorem Place.eq_of_not_before (notBefore : ¬ place.Before other)
    (notAfter : ¬ other.Before place) : place = other := by
  have same : place.turns = other.turns := List.le_antisymm notAfter notBefore
  obtain ⟨ways, rules⟩ := List.append_inj' same rfl
  have path : place.path = other.path :=
    List.map_injective_iff.2 (fun i j same => by simpa [descent] using same) ways
  have rule := Rule.eq_of_turn (List.cons.inj rules).1
  cases place
  cases other
  simp only at path rule
  rw [path, rule]

end Order

end Metering
