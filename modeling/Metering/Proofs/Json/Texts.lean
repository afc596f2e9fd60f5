import Metering.Json.Height
import Metering.Proofs.Json.Leaves

/-!
# JSON texts that are read back

The pretty text of a value is read as that value, its numbers apart, each of which is read as its
own text says, and apart from what is nested too deeply.  The reader keeps the containers that are
still open in a list, so the induction is on the value, for every list of open containers: reading a
value that has been written leads to the state in which that value has just been read.

* `mapNumbers`, `cut` — what happens to numbers, and to what is nested too deeply
* `readValue_pretty` — the step from a value that is due to a value that has been read
* `parse_prettyText`, `toOption_decode_prettyText` — whole texts
* `Readable.parse_prettyText` — values whose numbers are read back
-/

namespace Metering.Json

open Metering.Number (isDigit)

/-! ## Steps of the reader -/

section Steps

variable {cs rest tail : List Char} {stack : List Frame} {level : Nat} {j : Json}

theorem readValue_leaf (start : skipSpace cs = tail)
    (leaf : ∀ c ∈ tail.head?, c ≠ '[' ∧ c ≠ '\x7b') (scanned : scanLeaf tail = .ok (j, rest)) :
    readValue cs stack = resume j rest stack := by
  rw [readValue.eq_def]
  split
  case h_1 heq =>
    rw [start] at heq
    exact absurd rfl (leaf '[' (by simp [heq])).1
  case h_2 heq =>
    rw [start] at heq
    exact absurd rfl (leaf '\x7b' (by simp [heq])).2
  case h_3 =>
    split
    case h_1 hl =>
      rw [start, scanned] at hl
      cases hl
      rfl
    case h_2 hl =>
      rw [start, scanned] at hl
      cases hl

theorem readValue_emptyArray (start : skipSpace cs = '[' :: tail)
    (stop : skipSpace tail = ']' :: rest) :
    readValue cs stack = resume (ended (levelOf stack + 1) true (.array [])) rest stack := by
  rw [readValue.eq_def]
  split
  case h_1 heq =>
    rw [start] at heq
    cases heq
    split
    case h_1 heq =>
      rw [stop] at heq
      cases heq
      rfl
    case h_2 other => exact absurd stop (other _)
  case h_2 heq =>
    rw [start] at heq
    cases heq
  case h_3 other _ => exact absurd start (other _)

theorem readValue_array (start : skipSpace cs = '[' :: tail)
    (more : ∀ rest, skipSpace tail ≠ ']' :: rest) :
    readValue cs stack = readValue tail (.array (levelOf stack + 1) [] :: stack) := by
  rw [readValue.eq_def]
  split
  case h_1 heq =>
    rw [start] at heq
    cases heq
    split
    case h_1 heq => exact absurd heq (more _)
    case h_2 => rfl
  case h_2 heq =>
    rw [start] at heq
    cases heq
  case h_3 other _ => exact absurd start (other _)

theorem readValue_emptyObject (start : skipSpace cs = '\x7b' :: tail)
    (stop : skipSpace tail = '\x7d' :: rest) :
    readValue cs stack = resume (ended (levelOf stack + 1) true (.object [])) rest stack := by
  rw [readValue.eq_def]
  split
  case h_1 heq =>
    rw [start] at heq
    cases heq
  case h_2 heq =>
    rw [start] at heq
    cases heq
    split
    case h_1 heq =>
      rw [stop] at heq
      cases heq
      rfl
    case h_2 other => exact absurd stop (other _)
  case h_3 _ other => exact absurd start (other _)

theorem readValue_object {name : Option String} (start : skipSpace cs = '\x7b' :: tail)
    (more : ∀ rest, skipSpace tail ≠ '\x7d' :: rest) (named : scanName tail = .ok (name, rest)) :
    readValue cs stack = readValue rest (.object (levelOf stack + 1) [] true name :: stack) := by
  rw [readValue.eq_def]
  split
  case h_1 heq =>
    rw [start] at heq
    cases heq
  case h_2 heq =>
    rw [start] at heq
    cases heq
    split
    case h_1 heq => exact absurd heq (more _)
    case h_2 =>
      split
      case h_1 hn =>
        rw [named] at hn
        cases hn
        rfl
      case h_2 hn =>
        rw [named] at hn
        cases hn
  case h_3 _ other => exact absurd start (other _)

theorem resume_nil (stop : skipSpace cs = []) : resume j cs [] = .ok j := by
  rw [resume.eq_def]
  simp only [stop]

theorem resume_array_comma {items : List Json} (next : skipSpace cs = ',' :: rest) :
    resume j cs (.array level items :: stack) =
      readValue rest (.array level (j :: items) :: stack) := by
  rw [resume.eq_def]
  dsimp only
  split
  case h_1 heq =>
    rw [next] at heq
    cases heq
    rfl
  all_goals simp_all

theorem resume_array_end {items : List Json} (stop : skipSpace cs = ']' :: rest) :
    resume j cs (.array level items :: stack) =
      resume (ended level true (.array (j :: items).reverse)) rest stack := by
  rw [resume.eq_def]
  dsimp only
  split
  case h_2 heq =>
    rw [stop] at heq
    cases heq
    rfl
  all_goals simp_all

theorem resume_object_comma {members : List (String × Json)} {name : String} {next : Option String}
    (comma : skipSpace cs = ',' :: tail) (named : scanName tail = .ok (next, rest)) :
    resume j cs (.object level members true (some name) :: stack) =
      readValue rest (.object level ((name, j) :: members) true next :: stack) := by
  rw [resume.eq_def]
  dsimp only
  split
  case h_1 heq =>
    rw [comma] at heq
    cases heq
    split
    case h_1 hn =>
      rw [named] at hn
      cases hn
      rfl
    case h_2 hn =>
      rw [named] at hn
      cases hn
  all_goals simp_all

theorem resume_object_end {members : List (String × Json)} {name : String}
    (stop : skipSpace cs = '\x7d' :: rest) :
    resume j cs (.object level members true (some name) :: stack) =
      resume (ended level true (.object ((name, j) :: members).reverse)) rest stack := by
  rw [resume.eq_def]
  dsimp only
  split
  case h_2 heq =>
    rw [stop] at heq
    cases heq
    rfl
  all_goals simp_all

end Steps

/-! ## Space and leaves -/

theorem skipSpace_newLine (level : Nat) (cs : List Char) :
    skipSpace (newLine level ++ cs) = skipSpace cs := by
  apply List.dropWhile_append_of_pos
  intro c hc
  rw [newLine, List.mem_cons, List.mem_replicate] at hc
  rcases hc with rfl | ⟨_, rfl⟩
  · rfl
  · rfl

theorem skipSpace_cons {c : Char} (solid : isSpace c = false) (cs : List Char) :
    skipSpace (c :: cs) = c :: cs := by
  simp [skipSpace, solid]

/-- A leaf begins with none of the characters that stand between values. -/
theorem exists_cons_of_scanLeaf {cs rest : List Char} {j : Json}
    (scanned : scanLeaf cs = .ok (j, rest)) :
    ∃ c tail, cs = c :: tail ∧ isSpace c = false ∧ c ≠ ']' ∧ c ≠ '[' ∧ c ≠ '\x7b' := by
  unfold scanLeaf at scanned
  split at scanned
  case h_5 => cases scanned
  case h_6 c tail _ _ _ _ =>
    split at scanned
    case isTrue hc =>
      have other : ∀ d : Char, (d = '-' || isDigit d) = false → c ≠ d := by
        intro d hd heq
        rw [heq, hd] at hc
        cases hc
      refine ⟨c, tail, rfl, ?_, other _ (by decide), other _ (by decide), other _ (by decide)⟩
      simp only [isSpace, Bool.or_eq_false_iff, decide_eq_false_iff_not]
      exact ⟨⟨⟨other _ (by decide), other _ (by decide)⟩, other _ (by decide)⟩, other _ (by decide)⟩
    case isFalse => cases scanned
  all_goals exact ⟨_, _, rfl, by decide⟩

theorem scanLeaf_stringChars (s : String) (rest : List Char) :
    scanLeaf (stringChars s ++ rest) = .ok (.string s, rest) := by
  simp only [stringChars, List.cons_append, List.append_assoc, List.nil_append, scanLeaf,
    scanString?_escaped]

theorem scanName_stringChars (level : Nat) (name : String) (rest : List Char) :
    scanName (newLine level ++ (stringChars name ++ ':' :: rest)) = .ok (some name, rest) := by
  have start : skipSpace (newLine level ++ (stringChars name ++ ':' :: rest)) =
      '"' :: (name.toList.flatMap escapeChar ++ '"' :: ':' :: rest) := by
    rw [skipSpace_newLine, stringChars, List.cons_append, List.cons_append,
      skipSpace_cons (by decide), List.append_assoc]
    rfl
  rw [scanName, start]
  simp only [scanString?_escaped, skipSpace_cons (show isSpace ':' = false by decide)]

/-- The name of a member does not end the object. -/
theorem skipSpace_newLine_stringChars_ne (level : Nat) (name : String) (cs rest : List Char) :
    skipSpace (newLine level ++ (stringChars name ++ cs)) ≠ '\x7d' :: rest := by
  intro heq
  rw [skipSpace_newLine, stringChars, List.cons_append, List.cons_append,
    skipSpace_cons (by decide)] at heq
  cases heq

theorem readValue_number (n : Json.Number) {cs rest : List Char} {stack : List Frame}
    (ends : EndsNumber rest) (start : skipSpace cs = n.chars ++ rest) :
    readValue cs stack = resume n.reread rest stack := by
  have scanned := scanLeaf_chars n ends
  obtain ⟨c, tail, hcons, -, -, array, object⟩ := exists_cons_of_scanLeaf scanned
  refine readValue_leaf start ?_ scanned
  intro d hd
  rw [hcons] at hd
  cases hd
  exact ⟨array, object⟩

/-! ## What is read -/

mutual

/-- The value with other values in the places of its numbers; what is unreadable stands as `null` in
a text. -/
def mapNumbers (read : Json.Number → Json) : Json → Json
  | .number n => read n
  | .array items => .array (mapItems read items)
  | .object members => .object (mapMembers read members)
  | .unreadable => .null
  | j => j

def mapItems (read : Json.Number → Json) : List Json → List Json
  | [] => []
  | j :: rest => mapNumbers read j :: mapItems read rest

def mapMembers (read : Json.Number → Json) : List (String × Json) → List (String × Json)
  | [] => []
  | (name, j) :: rest => (name, mapNumbers read j) :: mapMembers read rest

end

mutual

/-- The value at a level of nesting, the containers in it that are nested too deeply left
unreadable. -/
def cut (level : Nat) : Json → Json
  | .array items => ended (level + 1) true (.array (cutItems (level + 1) items))
  | .object members => ended (level + 1) true (.object (cutMembers (level + 1) members))
  | j => j

def cutItems (level : Nat) : List Json → List Json
  | [] => []
  | j :: rest => cut level j :: cutItems level rest

def cutMembers (level : Nat) : List (String × Json) → List (String × Json)
  | [] => []
  | (name, j) :: rest => (name, cut level j) :: cutMembers level rest

end

theorem Numeric.cut {j : Json} (numeric : Numeric j) (level : Nat) : j.cut level = j := by
  cases numeric with
  | number => rfl
  | null => rfl
  | unreadable => rfl

/-! ## Texts of values -/

theorem exists_cons_pretty (j : Json) (level : Nat) :
    ∃ c tail, pretty level j = c :: tail ∧ isSpace c = false ∧ c ≠ ']' := by
  cases j with
  | null => exact ⟨_, _, rfl, by decide⟩
  | bool b => cases b <;> exact ⟨_, _, rfl, by decide⟩
  | number n =>
    have scanned := scanLeaf_chars n endsNumber_nil
    rw [List.append_nil] at scanned
    obtain ⟨c, tail, hcons, solid, stop, -, -⟩ := exists_cons_of_scanLeaf scanned
    exact ⟨c, tail, by rw [pretty, hcons], solid, stop⟩
  | string s => exact ⟨_, _, rfl, by decide⟩
  | array items => cases items <;> exact ⟨_, _, rfl, by decide⟩
  | object members => cases members <;> exact ⟨_, _, rfl, by decide⟩
  | unreadable => exact ⟨_, _, rfl, by decide⟩

theorem skipSpace_pretty (j : Json) (level : Nat) (rest : List Char) :
    skipSpace (pretty level j ++ rest) = pretty level j ++ rest := by
  obtain ⟨c, tail, hcons, solid, -⟩ := exists_cons_pretty j level
  rw [hcons, List.cons_append, skipSpace_cons solid]

theorem skipSpace_blank_pretty (j : Json) (level : Nat) (rest : List Char) :
    skipSpace (' ' :: (pretty level j ++ rest)) = pretty level j ++ rest :=
  skipSpace_pretty j level rest

theorem skipSpace_newLine_pretty (j : Json) (level : Nat) (rest : List Char) :
    skipSpace (newLine level ++ (pretty level j ++ rest)) = pretty level j ++ rest := by
  rw [skipSpace_newLine, skipSpace_pretty]

theorem skipSpace_newLine_pretty_ne (j : Json) (level : Nat) (rest other : List Char) :
    skipSpace (newLine level ++ (pretty level j ++ rest)) ≠ ']' :: other := by
  intro heq
  obtain ⟨c, cs, hcons, -, stop⟩ := exists_cons_pretty j level
  rw [skipSpace_newLine_pretty, hcons] at heq
  exact stop (List.cons.inj heq).1

theorem endsNumber_cons {c : Char} (hc : c = ',' ∨ c = '\n') (rest : List Char) :
    EndsNumber (c :: rest) := by
  intro d hd
  cases hd
  rcases hc with rfl | rfl
  · decide
  · decide

theorem endsNumber_prettyItems (level outer : Nat) (items : List Json) (rest : List Char) :
    EndsNumber (prettyItems level items ++ (newLine outer ++ rest)) := by
  cases items with
  | nil => exact endsNumber_cons (.inr rfl) _
  | cons j items => exact endsNumber_cons (.inl rfl) _

theorem endsNumber_prettyMembers (level outer : Nat) (members : List (String × Json))
    (rest : List Char) : EndsNumber (prettyMembers level members ++ (newLine outer ++ rest)) := by
  cases members with
  | nil => exact endsNumber_cons (.inr rfl) _
  | cons member members => exact endsNumber_cons (.inl rfl) _

/-! ## Reading written values -/

mutual

/-- Where a value is due that has been written, the reader comes to the state in which it has been
read, whatever containers are open. -/
theorem readValue_pretty (j : Json) (level : Nat) {stack : List Frame} {cs rest : List Char}
    (ends : EndsNumber rest) (start : skipSpace cs = pretty level j ++ rest) :
    readValue cs stack =
      resume ((j.mapNumbers Number.reread).cut (levelOf stack)) rest stack := by
  match j with
  | .null => exact readValue_leaf start (by simp [pretty, nullChars]) rfl
  | .bool true => exact readValue_leaf start (by simp [pretty, boolChars]) rfl
  | .bool false => exact readValue_leaf start (by simp [pretty, boolChars]) rfl
  | .number n =>
    rw [pretty] at start
    rw [mapNumbers, n.numeric_reread.cut]
    exact readValue_number n ends start
  | .string s =>
    rw [pretty] at start
    exact readValue_leaf start (by simp [stringChars]) (scanLeaf_stringChars s rest)
  | .array [] => exact readValue_emptyArray start (skipSpace_cons (by decide) rest)
  | .array (first :: items) =>
    simp only [pretty, List.append_assoc, List.cons_append, List.nil_append] at start
    -- the array is pushed, its first item is read, and the others are read from there
    rw [readValue_array start (skipSpace_newLine_pretty_ne first _ _),
      readValue_pretty first (level + 1) (endsNumber_prettyItems _ _ _ _)
        (skipSpace_newLine_pretty first _ _),
      resume_prettyItems items level]
    rfl
  | .object [] => exact readValue_emptyObject start (skipSpace_cons (by decide) rest)
  | .object ((name, first) :: members) =>
    simp only [pretty, List.append_assoc, List.cons_append, List.nil_append] at start
    rw [readValue_object start (skipSpace_newLine_stringChars_ne _ name _)
        (scanName_stringChars _ name _),
      readValue_pretty first (level + 1) (endsNumber_prettyMembers _ _ _ _)
        (skipSpace_blank_pretty first _ _),
      resume_prettyMembers members level]
    rfl
  | .unreadable => exact readValue_leaf start (by simp [pretty, nullChars]) rfl
termination_by sizeOf j

/-- After an item of an array, the reader goes on through the items that follow it to the end of the
array. -/
theorem resume_prettyItems (items : List Json) (level : Nat) {j : Json} {before : List Json}
    {n : Nat} {stack : List Frame} {rest : List Char} :
    resume j (prettyItems (level + 1) items ++ (newLine level ++ ']' :: rest))
        (.array n before :: stack) =
      resume (ended n true (.array
          (before.reverse ++ j :: cutItems n (mapItems Number.reread items)))) rest stack := by
  cases items with
  | nil =>
    have stop : skipSpace (newLine level ++ ']' :: rest) = ']' :: rest := by
      rw [skipSpace_newLine, skipSpace_cons (by decide)]
    rw [prettyItems, List.nil_append, resume_array_end stop, List.reverse_cons]
    rfl
  | cons next items =>
    simp only [prettyItems, List.append_assoc, List.cons_append]
    rw [resume_array_comma (skipSpace_cons (by decide) _),
      readValue_pretty next (level + 1) (endsNumber_prettyItems _ _ _ _)
        (skipSpace_newLine_pretty next _ _),
      resume_prettyItems items level, List.reverse_cons, List.append_assoc]
    rfl
termination_by sizeOf items

/-- After a member of an object, the reader goes on through the members that follow it to the end
of the object. -/
theorem resume_prettyMembers (members : List (String × Json)) (level : Nat) {name : String}
    {j : Json} {before : List (String × Json)} {n : Nat} {stack : List Frame} {rest : List Char} :
    resume j (prettyMembers (level + 1) members ++ (newLine level ++ '\x7d' :: rest))
        (.object n before true (some name) :: stack) =
      resume (ended n true (.object
          (before.reverse ++ (name, j) :: cutMembers n (mapMembers Number.reread members))))
        rest stack := by
  match members with
  | [] =>
    have stop : skipSpace (newLine level ++ '\x7d' :: rest) = '\x7d' :: rest := by
      rw [skipSpace_newLine, skipSpace_cons (by decide)]
    rw [prettyMembers, List.nil_append, resume_object_end stop, List.reverse_cons]
    rfl
  | (nextName, next) :: members =>
    simp only [prettyMembers, List.append_assoc, List.cons_append]
    rw [resume_object_comma (skipSpace_cons (by decide) _) (scanName_stringChars _ nextName _),
      readValue_pretty next (level + 1) (endsNumber_prettyMembers _ _ _ _)
        (skipSpace_blank_pretty next _ _),
      resume_prettyMembers members level, List.reverse_cons, List.append_assoc]
    rfl
termination_by sizeOf members

end

/-- A written value is read with its numbers as their own texts say, and without what is nested too
deeply. -/
theorem parse_prettyText (j : Json) :
    parse j.prettyText = .ok ((j.mapNumbers Number.reread).cut 0) := by
  have start : skipSpace j.prettyText.toList = pretty 0 j ++ [] := by
    rw [prettyText, String.toList_ofList, List.append_nil, ← List.append_nil (pretty 0 j),
      skipSpace_pretty]
  rw [parse, readValue_pretty j 0 endsNumber_nil start]
  exact resume_nil rfl

theorem toOption_decode_prettyText {α : Type} (read : Json → Except Fault α) (j : Json) :
    (decode read j.prettyText).toOption = (read (cut 0 (j.mapNumbers Number.reread))).toOption := by
  rw [decode, parse_prettyText]
  dsimp only
  cases read (cut 0 (j.mapNumbers Number.reread)) <;> rfl

/-! ## Nesting -/

theorem ended_of_le {level : Nat} (shallow : level ≤ maxLevels) (j : Json) :
    ended level true j = j := by
  simp [ended, shallow]

theorem ended_of_lt {level : Nat} (deep : maxLevels < level) (j : Json) :
    ended level true j = .unreadable := by
  simp [ended, Nat.not_le.2 deep]

mutual

theorem cut_of_le (j : Json) {level : Nat} (shallow : level + j.height ≤ maxLevels) :
    cut level j = j := by
  cases j with
  | array items =>
    rw [height] at shallow
    rw [cut, cutItems_of_le items (by omega), ended_of_le (by omega)]
  | object members =>
    rw [height] at shallow
    rw [cut, cutMembers_of_le members (by omega), ended_of_le (by omega)]
  | _ => rfl

theorem cutItems_of_le (items : List Json) {level : Nat}
    (shallow : level + itemsHeight items ≤ maxLevels) : cutItems level items = items := by
  cases items with
  | nil => rfl
  | cons j items =>
    rw [itemsHeight] at shallow
    rw [cutItems, cut_of_le j (by omega), cutItems_of_le items (by omega)]

theorem cutMembers_of_le (members : List (String × Json)) {level : Nat}
    (shallow : level + membersHeight members ≤ maxLevels) : cutMembers level members = members := by
  cases members with
  | nil => rfl
  | cons member members =>
    obtain ⟨name, j⟩ := member
    rw [membersHeight] at shallow
    rw [cutMembers, cut_of_le j (by omega), cutMembers_of_le members (by omega)]

end

mutual

/-- What is nested too deeply cannot be taken as a free value. -/
theorem canonical?_cut_of_lt (j : Json) {level : Nat} (room : level ≤ maxLevels)
    (deep : maxLevels < level + j.height) : canonical? (cut level j) = none := by
  cases j with
  | array items =>
    rw [height] at deep
    rw [cut]
    by_cases within : level + 1 ≤ maxLevels
    · rw [ended_of_le within, canonical?, canonicalItems?_cutItems_of_lt items within (by omega),
        Option.map_none]
    · rw [ended_of_lt (by omega), canonical?]
  | object members =>
    rw [height] at deep
    rw [cut]
    by_cases within : level + 1 ≤ maxLevels
    · rw [ended_of_le within, canonical?,
        canonicalMembers?_cutMembers_of_lt members within (by omega), Option.map_none]
    · rw [ended_of_lt (by omega), canonical?]
  | _ =>
    -- a leaf takes no level
    simp only [height] at deep
    omega

theorem canonicalItems?_cutItems_of_lt (items : List Json) {level : Nat} (room : level ≤ maxLevels)
    (deep : maxLevels < level + itemsHeight items) :
    canonicalItems? (cutItems level items) = none := by
  cases items with
  | nil =>
    rw [itemsHeight] at deep
    omega
  | cons j items =>
    rw [itemsHeight] at deep
    rw [cutItems, canonicalItems?]
    by_cases head : maxLevels < level + j.height
    · rw [canonical?_cut_of_lt j room head]
    · rw [canonicalItems?_cutItems_of_lt items room (by omega)]
      split
      case h_1 none => cases none
      case h_2 => rfl

theorem canonicalMembers?_cutMembers_of_lt (members : List (String × Json)) {level : Nat}
    (room : level ≤ maxLevels) (deep : maxLevels < level + membersHeight members)
    {before : List (String × Json)} :
    canonicalMembers? before (cutMembers level members) = none := by
  cases members with
  | nil =>
    rw [membersHeight] at deep
    omega
  | cons member members =>
    obtain ⟨name, j⟩ := member
    rw [membersHeight] at deep
    rw [cutMembers, canonicalMembers?]
    by_cases head : maxLevels < level + j.height
    · rw [canonical?_cut_of_lt j room head]
    · split
      case h_1 => exact canonicalMembers?_cutMembers_of_lt members room (by omega)
      case h_2 => rfl

end

section Heights

variable {read : Json.Number → Json}

theorem Numeric.height {j : Json} (numeric : Numeric j) : j.height = 0 := by
  cases numeric with
  | number => rfl
  | null => rfl
  | unreadable => rfl

mutual

theorem height_mapNumbers (numeric : ∀ n, Numeric (read n)) (j : Json) :
    (j.mapNumbers read).height = j.height := by
  cases j with
  | number n => exact (numeric n).height
  | array items => rw [mapNumbers, height, height, itemsHeight_mapItems numeric items]
  | object members => rw [mapNumbers, height, height, membersHeight_mapMembers numeric members]
  | _ => rfl

theorem itemsHeight_mapItems (numeric : ∀ n, Numeric (read n)) (items : List Json) :
    itemsHeight (mapItems read items) = itemsHeight items := by
  cases items with
  | nil => rfl
  | cons j items =>
    rw [mapItems, itemsHeight, itemsHeight, height_mapNumbers numeric j,
      itemsHeight_mapItems numeric items]

theorem membersHeight_mapMembers (numeric : ∀ n, Numeric (read n))
    (members : List (String × Json)) :
    membersHeight (mapMembers read members) = membersHeight members := by
  cases members with
  | nil => rfl
  | cons member members =>
    obtain ⟨name, j⟩ := member
    rw [mapMembers, membersHeight, membersHeight, height_mapNumbers numeric j,
      membersHeight_mapMembers numeric members]

end

end Heights

theorem itemsHeight_map_le {α : Type} {json : α → Json} {xs : List α} {n : Nat}
    (bound : ∀ x ∈ xs, (json x).height ≤ n) : itemsHeight (xs.map json) ≤ n := by
  induction xs with
  | nil => exact Nat.zero_le n
  | cons x xs ih =>
    rw [List.map_cons, itemsHeight]
    exact Nat.max_le.2 ⟨bound x (by simp), ih fun y hy => bound y (List.mem_cons_of_mem _ hy)⟩

theorem membersHeight_append (members others : List (String × Json)) :
    membersHeight (members ++ others) = max (membersHeight members) (membersHeight others) := by
  induction members with
  | nil => simp [membersHeight]
  | cons member members ih => simp [membersHeight, ih, Nat.max_assoc]

/-! ## Values that are read back -/

mutual

/-- A value whose text is read as it was: its numbers are read back, and nothing in it is
unreadable. -/
inductive Readable : Json → Prop where
  | null : Readable .null
  | bool {b : Bool} : Readable (.bool b)
  | number {n : Json.Number} : n.reread = .number n → Readable (.number n)
  | string {s : String} : Readable (.string s)
  | array {items : List Json} : ReadableItems items → Readable (.array items)
  | object {members : List (String × Json)} : ReadableMembers members → Readable (.object members)

inductive ReadableItems : List Json → Prop where
  | nil : ReadableItems []
  | cons {j : Json} {items : List Json} :
      Readable j → ReadableItems items → ReadableItems (j :: items)

inductive ReadableMembers : List (String × Json) → Prop where
  | nil : ReadableMembers []
  | cons {name : String} {j : Json} {members : List (String × Json)} :
      Readable j → ReadableMembers members → ReadableMembers ((name, j) :: members)

end

theorem ReadableItems.map {α : Type} {json : α → Json} {xs : List α}
    (readable : ∀ x ∈ xs, Readable (json x)) : ReadableItems (xs.map json) := by
  induction xs with
  | nil => exact .nil
  | cons x xs ih =>
    exact .cons (readable x (by simp)) (ih fun y hy => readable y (List.mem_cons_of_mem _ hy))

mutual

theorem Readable.mapNumbers {j : Json} (readable : Readable j) :
    j.mapNumbers Number.reread = j := by
  cases readable with
  | null => rfl
  | bool => rfl
  | number back => exact back
  | string => rfl
  | array items => rw [Json.mapNumbers, items.mapItems]
  | object members => rw [Json.mapNumbers, members.mapMembers]
termination_by sizeOf j

theorem ReadableItems.mapItems {items : List Json} (readable : ReadableItems items) :
    Json.mapItems Number.reread items = items := by
  cases readable with
  | nil => rfl
  | cons head tail => rw [Json.mapItems, head.mapNumbers, tail.mapItems]
termination_by sizeOf items

theorem ReadableMembers.mapMembers {members : List (String × Json)}
    (readable : ReadableMembers members) : Json.mapMembers Number.reread members = members := by
  cases readable with
  | nil => rfl
  | cons head tail => rw [Json.mapMembers, head.mapNumbers, tail.mapMembers]
termination_by sizeOf members

end

/-- Parsing undoes writing. -/
theorem Readable.parse_prettyText {j : Json} (readable : Readable j)
    (shallow : j.height ≤ maxLevels) : parse j.prettyText = .ok j := by
  rw [Json.parse_prettyText, readable.mapNumbers, cut_of_le j (by omega)]

end Metering.Json
