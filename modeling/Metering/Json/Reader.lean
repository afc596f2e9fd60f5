import Metering.Json.Number

/-! # Reading JSON

A strict reader of JSON texts.  Containers that are still open are kept in a list, the innermost
first, so that no depth of nesting is too much for the reader itself; a container nested more than
`maxLevels` deep is read over and left `unreadable`.

* `Json.scanString?` — the text of a string after its opening quote;
* `Json.readValue`, `Json.resume` — the reader: a value is due, or a value has just been read;
* `Json.parse` — the value that a whole text denotes, or the place where the text is at fault.
-/

namespace Metering.Json

/-- What is wrong where a text cannot be read on. -/
inductive SyntaxFault where
  | endOfText
  | valueExpected
  | malformedNumber
  | malformedString
  | nameExpected
  | colonExpected
  | commaOrEndExpected
  | trailingText
deriving DecidableEq

/-- A fault and the text that is left where it was found. -/
structure Stop where
  fault : SyntaxFault
  rest : List Char

/-- The number of levels of nesting that are read. -/
def maxLevels : Nat := 127

/-! ## Space -/

/-- The space between the parts of a JSON text. -/
def isSpace (c : Char) : Bool :=
  c = ' ' || c = '\n' || c = '\t' || c = '\r'

def skipSpace (cs : List Char) : List Char :=
  cs.dropWhile isSpace

theorem skipSpace_length_le (cs : List Char) : (skipSpace cs).length ≤ cs.length :=
  (List.dropWhile_sublist isSpace).length_le

theorem length_lt_of_skipSpace_eq {cs rest : List Char} {c : Char} (h : skipSpace cs = c :: rest) :
    rest.length < cs.length := by
  have := skipSpace_length_le cs
  rw [h, List.length_cons] at this
  omega

/-! ## Strings -/

/-- A piece of a string: a character as it stands, or a 16-bit unit given by its digits. -/
inductive Piece where
  | char (c : Char)
  | unit (n : Nat)

def hexValue? (c : Char) : Option Nat :=
  if '0' ≤ c ∧ c ≤ '9' then some (c.toNat - '0'.toNat)
  else if 'a' ≤ c ∧ c ≤ 'f' then some (c.toNat - 'a'.toNat + 10)
  else if 'A' ≤ c ∧ c ≤ 'F' then some (c.toNat - 'A'.toNat + 10)
  else none

/-- The 16-bit unit of four hexadecimal digits. -/
def unit? (a b c d : Char) : Option Nat := do
  some ((← hexValue? a) * 4096 + (← hexValue? b) * 256 + (← hexValue? c) * 16 + (← hexValue? d))

def shortEscape? (c : Char) : Option Char :=
  match c with
  | '"' => some '"'
  | '\\' => some '\\'
  | '/' => some '/'
  | 'b' => some '\x08'
  | 'f' => some '\x0c'
  | 'n' => some '\n'
  | 'r' => some '\r'
  | 't' => some '\t'
  | _ => none

/-- The pieces of a string up to its closing quote, after the reversed pieces `done`, and what
follows it. -/
def scanPieces? (done : List Piece) : List Char → Option (List Piece × List Char)
  | [] => none
  | '"' :: rest => some (done.reverse, rest)
  | '\\' :: 'u' :: a :: b :: c :: d :: rest =>
    match unit? a b c d with
    | some n => scanPieces? (.unit n :: done) rest
    | none => none
  | '\\' :: c :: rest =>
    match shortEscape? c with
    | some c => scanPieces? (.char c :: done) rest
    | none => none
  -- a control character has to be escaped, and a backslash at the end escapes nothing
  | c :: rest => if c.toNat < 0x20 || c = '\\' then none else scanPieces? (.char c :: done) rest

/-- The characters of pieces: two units of a surrogate pair are one character, an unpaired
surrogate is none. -/
def pieceChars? : List Piece → Option (List Char)
  | [] => some []
  | .char c :: rest => (pieceChars? rest).map (c :: ·)
  | .unit n :: .unit m :: rest =>
    if 0xd800 ≤ n ∧ n < 0xdc00 then
      if 0xdc00 ≤ m ∧ m < 0xe000 then
        (pieceChars? rest).map (Char.ofNat ((n - 0xd800) * 0x400 + (m - 0xdc00) + 0x10000) :: ·)
      else none
    else if 0xdc00 ≤ n ∧ n < 0xe000 then none
    else (pieceChars? (.unit m :: rest)).map (Char.ofNat n :: ·)
  | .unit n :: rest =>
    if 0xd800 ≤ n ∧ n < 0xe000 then none else (pieceChars? rest).map (Char.ofNat n :: ·)

/-- The text of a string after its opening quote, none if it has an unpaired surrogate, and what
follows the closing quote. -/
def scanString? (cs : List Char) : Option (Option String × List Char) :=
  (scanPieces? [] cs).map fun (pieces, rest) => ((pieceChars? pieces).map String.ofList, rest)

theorem length_lt_of_scanPieces? {done : List Piece} {cs : List Char} {pieces : List Piece}
    {rest : List Char} (h : scanPieces? done cs = some (pieces, rest)) :
    rest.length < cs.length := by
  fun_induction scanPieces? done cs with
  | case1 => simp at h
  | case2 => simp_all
  | case3 done a b c d rest' n hu ih => have := ih h; simp only [List.length_cons]; omega
  | case4 => simp at h
  | case5 done c rest' hne c' hs ih => have := ih h; simp only [List.length_cons]; omega
  | case6 => simp at h
  | case7 => simp at h
  | case8 done c rest' _ _ _ _ ih => have := ih h; simp only [List.length_cons]; omega

theorem length_lt_of_scanString? {cs rest : List Char} {s : Option String}
    (h : scanString? cs = some (s, rest)) : rest.length < cs.length := by
  simp only [scanString?, Option.map_eq_some_iff, Prod.mk.injEq] at h
  obtain ⟨⟨pieces, rest'⟩, hp, _, rfl⟩ := h
  exact length_lt_of_scanPieces? hp

/-! ## Numbers -/

theorem length_le_of_scanFraction? {cs rest : List Char} {f : Option (List Char)}
    (h : Literal.scanFraction? cs = some (f, rest)) : rest.length ≤ cs.length := by
  unfold Literal.scanFraction? at h
  split at h
  · next tail =>
    simp only [Option.ite_none_left_eq_some, Option.some.injEq, Prod.mk.injEq] at h
    obtain ⟨_, _, rfl⟩ := h
    have := (List.dropWhile_sublist (l := tail) Number.isDigit).length_le
    simp only [List.length_cons]
    omega
  · simp only [Option.some.injEq, Prod.mk.injEq] at h
    obtain ⟨_, rfl⟩ := h
    exact Nat.le_refl _

theorem splitSign_length_le (cs : List Char) : (Number.splitSign cs).2.length ≤ cs.length := by
  unfold Number.splitSign
  split <;> simp

theorem length_le_of_scanExponent? {cs rest : List Char} {e : Option (Bool × List Char)}
    (h : Literal.scanExponent? cs = some (e, rest)) : rest.length ≤ cs.length := by
  unfold Literal.scanExponent? at h
  split at h
  · next c tail =>
    split at h
    · simp only [Option.ite_none_left_eq_some, Option.some.injEq, Prod.mk.injEq] at h
      obtain ⟨_, _, rfl⟩ := h
      have h₁ := (List.dropWhile_sublist (l := (Number.splitSign tail).2) Number.isDigit).length_le
      have h₂ := splitSign_length_le tail
      simp only [List.length_cons]
      omega
    · simp only [Option.some.injEq, Prod.mk.injEq] at h
      obtain ⟨_, rfl⟩ := h
      exact Nat.le_refl _
  · simp only [Option.some.injEq, Prod.mk.injEq] at h
    obtain ⟨_, rfl⟩ := h
    exact Nat.le_refl _

theorem length_lt_dropWhile_of_takeWhile {p : Char → Bool} {cs : List Char}
    (h : (cs.takeWhile p).isEmpty = false) : (cs.dropWhile p).length < cs.length := by
  have hsum := congrArg List.length (List.takeWhile_append_dropWhile (p := p) (l := cs))
  have hpos : 0 < (cs.takeWhile p).length := by
    cases hw : cs.takeWhile p with
    | nil => simp [hw] at h
    | cons => simp
  rw [List.length_append] at hsum
  omega

theorem splitMinus_length_le (cs : List Char) : (Literal.splitMinus cs).2.length ≤ cs.length := by
  unfold Literal.splitMinus
  split <;> simp

theorem length_lt_of_scan? {cs rest : List Char} {l : Literal}
    (h : Literal.scan? cs = some (l, rest)) : rest.length < cs.length := by
  unfold Literal.scan? at h
  simp only [Option.bind_eq_bind, Option.ite_none_left_eq_some, Option.bind_eq_some_iff,
    Option.some.injEq, Prod.mk.injEq, Prod.exists] at h
  obtain ⟨hw, fraction, r₁, h₁, exponent, r₂, h₂, _, rfl⟩ := h
  have h₁ := length_le_of_scanFraction? h₁
  have h₂ := length_le_of_scanExponent? h₂
  simp only [Bool.or_eq_true, not_or, Bool.not_eq_true] at hw
  have hd := length_lt_dropWhile_of_takeWhile hw.1
  have hm := splitMinus_length_le cs
  omega

/-! ## Values -/

/-- A container that is still open: its nesting level, and what it holds so far, the last first.
An object also holds the name of the member whose value is due; names with an unpaired surrogate
make it unreadable. -/
inductive Frame where
  | array (level : Nat) (items : List Json)
  | object (level : Nat) (members : List (String × Json)) (readable : Bool) (name : Option String)

/-- The nesting level of the innermost open container. -/
def levelOf : List Frame → Nat
  | [] => 0
  | .array level _ :: _ => level
  | .object level _ _ _ :: _ => level

/-- A container that ends at a level of nesting. -/
def ended (level : Nat) (readable : Bool) (j : Json) : Json :=
  if level ≤ maxLevels && readable then j else .unreadable

/-- The name of a member and the colon after it, and what follows. -/
def scanName (cs : List Char) : Except Stop (Option String × List Char) :=
  match skipSpace cs with
  | '"' :: rest =>
    match scanString? rest with
    | some (name, rest) =>
      match skipSpace rest with
      | ':' :: rest => .ok (name, rest)
      | rest => .error ⟨.colonExpected, rest⟩
    | none => .error ⟨.malformedString, rest⟩
  | rest => .error ⟨.nameExpected, rest⟩

theorem length_lt_of_scanName {cs rest : List Char} {name : Option String}
    (h : scanName cs = .ok (name, rest)) : rest.length < cs.length := by
  unfold scanName at h
  split at h
  · next tail hs =>
    have h₁ := length_lt_of_skipSpace_eq hs
    split at h
    · next n tail' hn =>
      have h₂ := length_lt_of_scanString? hn
      split at h
      · next tail'' hc =>
        have h₃ := length_lt_of_skipSpace_eq hc
        simp only [Except.ok.injEq, Prod.mk.injEq] at h
        obtain ⟨_, rfl⟩ := h
        omega
      · simp at h
    · simp at h
  · simp at h

/-- A constant, a string or a number at the front of a text, and what follows it. -/
def scanLeaf (cs : List Char) : Except Stop (Json × List Char) :=
  match cs with
  | 'n' :: 'u' :: 'l' :: 'l' :: rest => .ok (.null, rest)
  | 't' :: 'r' :: 'u' :: 'e' :: rest => .ok (.bool true, rest)
  | 'f' :: 'a' :: 'l' :: 's' :: 'e' :: rest => .ok (.bool false, rest)
  | '"' :: rest =>
    match scanString? rest with
    | some (some s, rest) => .ok (.string s, rest)
    | some (none, rest) => .ok (.unreadable, rest)
    | none => .error ⟨.malformedString, rest⟩
  | [] => .error ⟨.endOfText, []⟩
  | c :: rest =>
    if c = '-' || Number.isDigit c then
      match Literal.scan? (c :: rest) with
      | some (l, rest) => .ok ((l.value?.map .number).getD .unreadable, rest)
      | none => .error ⟨.malformedNumber, c :: rest⟩
    else .error ⟨.valueExpected, c :: rest⟩

theorem length_lt_of_scanLeaf {cs rest : List Char} {j : Json}
    (h : scanLeaf cs = .ok (j, rest)) : rest.length < cs.length := by
  unfold scanLeaf at h
  split at h
  · simp only [Except.ok.injEq, Prod.mk.injEq] at h
    obtain ⟨_, rfl⟩ := h
    simp only [List.length_cons]
    omega
  · simp only [Except.ok.injEq, Prod.mk.injEq] at h
    obtain ⟨_, rfl⟩ := h
    simp only [List.length_cons]
    omega
  · simp only [Except.ok.injEq, Prod.mk.injEq] at h
    obtain ⟨_, rfl⟩ := h
    simp only [List.length_cons]
    omega
  · split at h
    · next hs =>
      simp only [Except.ok.injEq, Prod.mk.injEq] at h
      obtain ⟨_, rfl⟩ := h
      have := length_lt_of_scanString? hs
      simp only [List.length_cons]
      omega
    · next hs =>
      simp only [Except.ok.injEq, Prod.mk.injEq] at h
      obtain ⟨_, rfl⟩ := h
      have := length_lt_of_scanString? hs
      simp only [List.length_cons]
      omega
    · simp at h
  · simp at h
  · split at h
    · split at h
      · next hs =>
        simp only [Except.ok.injEq, Prod.mk.injEq] at h
        obtain ⟨_, rfl⟩ := h
        exact length_lt_of_scan? hs
      · simp at h
    · simp at h

set_option linter.unusedVariables false in
mutual

/-- Reads the text where a value is due. -/
def readValue (cs : List Char) (stack : List Frame) : Except Stop Json :=
  match hs : skipSpace cs with
  | '[' :: rest =>
    match ht : skipSpace rest with
    | ']' :: rest => resume (ended (levelOf stack + 1) true (.array [])) rest stack
    | _ => readValue rest (.array (levelOf stack + 1) [] :: stack)
  | '\x7b' :: rest =>
    match ht : skipSpace rest with
    | '\x7d' :: rest => resume (ended (levelOf stack + 1) true (.object [])) rest stack
    | _ =>
      match hn : scanName rest with
      | .ok (name, rest) =>
        readValue rest (.object (levelOf stack + 1) [] true name :: stack)
      | .error stop => .error stop
  | text =>
    match hl : scanLeaf text with
    | .ok (j, rest) => resume j rest stack
    | .error stop => .error stop
termination_by cs.length
decreasing_by
  · have := length_lt_of_skipSpace_eq hs
    have := length_lt_of_skipSpace_eq ht
    omega
  · exact length_lt_of_skipSpace_eq hs
  · have := length_lt_of_skipSpace_eq hs
    have := length_lt_of_skipSpace_eq ht
    omega
  · have := length_lt_of_skipSpace_eq hs
    have := length_lt_of_scanName hn
    omega
  · have := length_lt_of_scanLeaf hl
    have := skipSpace_length_le cs
    rw [hs] at this
    omega

/-- Reads the text after a value: the value goes into the innermost open container. -/
def resume (j : Json) (cs : List Char) (stack : List Frame) : Except Stop Json :=
  match stack with
  | [] =>
    match skipSpace cs with
    | [] => .ok j
    | rest => .error ⟨.trailingText, rest⟩
  | .array level items :: stack =>
    match hs : skipSpace cs with
    | ',' :: rest => readValue rest (.array level (j :: items) :: stack)
    | ']' :: rest => resume (ended level true (.array (j :: items).reverse)) rest stack
    | [] => .error ⟨.endOfText, []⟩
    | rest => .error ⟨.commaOrEndExpected, rest⟩
  | .object level members readable name :: stack =>
    let readable := readable && name.isSome
    let members := (name.getD "", j) :: members
    match hs : skipSpace cs with
    | ',' :: rest =>
      match hn : scanName rest with
      | .ok (name, rest) => readValue rest (.object level members readable name :: stack)
      | .error stop => .error stop
    | '\x7d' :: rest => resume (ended level readable (.object members.reverse)) rest stack
    | [] => .error ⟨.endOfText, []⟩
    | rest => .error ⟨.commaOrEndExpected, rest⟩
termination_by cs.length
decreasing_by
  · exact length_lt_of_skipSpace_eq hs
  · exact length_lt_of_skipSpace_eq hs
  · have := length_lt_of_skipSpace_eq hs
    have := length_lt_of_scanName hn
    omega
  · exact length_lt_of_skipSpace_eq hs

end

/-- The value that a whole text denotes, or where the text is at fault. -/
def parse (s : String) : Except Stop Json :=
  readValue s.toList []

end Metering.Json
