import Metering.Csv.Table

/-!
# Tables that are read back

The text of a table is read as that table.  The reader goes through the text character by
character, so its progress is followed over one field, over the fields of a record and over the
records of a table.  A record with a single empty field is an empty line, which is passed over, so
it does not count as writable.

* `foldl_step_fieldChars` — over a field, bare or between quotes
* `foldl_step_recordChars` — over a record and the end of its line
* `Table.parse_tableText` — whole tables
-/

namespace Metering.Csv

open Progress (step)

variable {records : List (List String)} {fields : List String} {field : List Char} {state : State}

/-! ## Fields -/

/-- The character means the same outside quotes wherever it stands. -/
def isPlain (c : Char) : Bool :=
  c ≠ ',' && c ≠ '"' && !Progress.isLineEnd c

theorem needsQuotes_eq_false_iff {f : String} :
    needsQuotes f = false ↔ ∀ c ∈ f.toList, isPlain c = true := by
  simp [needsQuotes, isPlain, Progress.isLineEnd, not_or, and_assoc]

theorem step_plain {c : Char} (plain : isPlain c = true) (bare : state ≠ .quotedField)
    (unquoted : state ≠ .quoteSeen) :
    step ⟨state, records, fields, field⟩ c = ⟨.bareField, records, fields, c :: field⟩ := by
  simp only [isPlain, Bool.and_eq_true, decide_eq_true_eq, Bool.not_eq_true'] at plain
  obtain ⟨⟨comma, quote⟩, line⟩ := plain
  cases state with
  | betweenRecords => simp [step, Progress.first, Progress.bare, Progress.add, comma, quote, line]
  | fieldStart => simp [step, Progress.first, Progress.bare, Progress.add, comma, quote, line]
  | bareField => simp [step, Progress.bare, Progress.add, comma, line]
  | quotedField => exact absurd rfl bare
  | quoteSeen => exact absurd rfl unquoted

theorem foldl_step_plain {cs : List Char} (plain : ∀ c ∈ cs, isPlain c = true) :
    cs.foldl step ⟨.bareField, records, fields, field⟩ =
      ⟨.bareField, records, fields, cs.reverse ++ field⟩ := by
  induction cs generalizing field with
  | nil => rfl
  | cons c cs ih =>
    rw [List.foldl_cons, step_plain (plain c (by simp)) State.noConfusion State.noConfusion,
      ih fun d hd => plain d (List.mem_cons_of_mem _ hd), List.reverse_cons, List.append_assoc]
    rfl

theorem foldl_step_quoted (cs : List Char) :
    ((cs.flatMap fun c => if c = '"' then ['"', '"'] else [c]) ++ ['"']).foldl step
        ⟨.quotedField, records, fields, field⟩ =
      ⟨.quoteSeen, records, fields, cs.reverse ++ field⟩ := by
  induction cs generalizing field with
  | nil => rfl
  | cons c cs ih =>
    rw [List.flatMap_cons, List.append_assoc, List.foldl_append, List.reverse_cons,
      List.append_assoc, List.singleton_append]
    by_cases quote : c = '"'
    · -- a doubled quote leads out of the quotes and back into them
      subst quote
      exact ih
    · rw [if_neg quote]
      have added : [c].foldl step ⟨.quotedField, records, fields, field⟩ =
          ⟨.quotedField, records, fields, c :: field⟩ := by
        simp [step, Progress.add, quote]
      rw [added]
      exact ih

/-- Over a field the reader gathers its characters.  It is between records afterwards only if it has
been there before and the field is empty. -/
theorem foldl_step_fieldChars (records : List (List String)) (fields : List String) (f : String)
    (begin : state = .betweenRecords ∨ state = .fieldStart) :
    ∃ after, (fieldChars f).foldl step ⟨state, records, fields, []⟩ =
        ⟨after, records, fields, f.toList.reverse⟩ ∧
      after ≠ .quotedField ∧ (after = .betweenRecords → state = .betweenRecords ∧ f = "") := by
  have bare : state ≠ .quotedField ∧ state ≠ .quoteSeen := by
    rcases begin with rfl | rfl <;> simp
  by_cases quoted : needsQuotes f = true
  · refine ⟨.quoteSeen, ?_, nofun, nofun⟩
    have opened : step ⟨state, records, fields, []⟩ '"' = ⟨.quotedField, records, fields, []⟩ := by
      rcases begin with rfl | rfl <;> rfl
    rw [fieldChars, if_pos quoted, List.cons_append, List.foldl_cons, opened, foldl_step_quoted,
      List.append_nil]
  · have plain := needsQuotes_eq_false_iff.1 (Bool.not_eq_true _ ▸ quoted)
    rw [fieldChars, if_neg quoted]
    cases hf : f.toList with
    | nil =>
      refine ⟨state, rfl, bare.1, ?_⟩
      intro between
      exact ⟨between, String.toList_eq_nil_iff.1 hf⟩
    | cons c cs =>
      rw [hf] at plain
      refine ⟨.bareField, ?_, nofun, nofun⟩
      rw [List.foldl_cons, step_plain (plain c (by simp)) bare.1 bare.2,
        foldl_step_plain fun d hd => plain d (List.mem_cons_of_mem _ hd), List.reverse_cons]

/-! ## Records -/

theorem step_comma (unquoted : state ≠ .quotedField) :
    step ⟨state, records, fields, field⟩ ',' =
      ⟨.fieldStart, records, String.ofList field.reverse :: fields, []⟩ := by
  cases state with
  | quotedField => exact absurd rfl unquoted
  | _ => rfl

theorem step_newLine (unquoted : state ≠ .quotedField) (within : state ≠ .betweenRecords) :
    step ⟨state, records, fields, field⟩ '\n' =
      ⟨.betweenRecords, (String.ofList field.reverse :: fields).reverse :: records, [], []⟩ := by
  cases state with
  | quotedField => exact absurd rfl unquoted
  | betweenRecords => exact absurd rfl within
  | _ => rfl

theorem foldl_step_furtherFields (rest : List String) (unquoted : state ≠ .quotedField)
    (within : rest = [] → state ≠ .betweenRecords) :
    ((rest.flatMap fun f => ',' :: fieldChars f) ++ ['\n']).foldl step
        ⟨state, records, fields, field⟩ =
      ⟨.betweenRecords, ((String.ofList field.reverse :: fields).reverse ++ rest) :: records, [],
        []⟩ := by
  induction rest generalizing state fields field with
  | nil =>
    rw [List.append_nil]
    exact step_newLine unquoted (within rfl)
  | cons f rest ih =>
    -- after a comma the reader is never between records, so an empty field counts
    obtain ⟨after, read, closed, begin⟩ :=
      foldl_step_fieldChars records (String.ofList field.reverse :: fields) f (.inr rfl)
    have inside : rest = [] → after ≠ .betweenRecords := by
      intro _ between
      exact State.noConfusion (begin between).1
    rw [List.flatMap_cons, List.append_assoc, List.cons_append, List.foldl_cons,
      step_comma unquoted, List.foldl_append, read, ih closed inside, List.reverse_reverse,
      String.ofList_toList, List.reverse_cons, List.append_assoc, List.singleton_append]

/-- A record whose line is not empty. -/
def Writable (record : List String) : Prop :=
  record ≠ [] ∧ record ≠ [""]

theorem foldl_step_recordChars {record : List String} (writable : Writable record) :
    (recordChars record).foldl step ⟨.betweenRecords, records, [], []⟩ =
      ⟨.betweenRecords, record :: records, [], []⟩ := by
  cases record with
  | nil => exact absurd rfl writable.1
  | cons f rest =>
    obtain ⟨after, read, closed, begin⟩ := foldl_step_fieldChars records [] f (.inl rfl)
    -- the reader is still between records only if the line is empty
    have within : rest = [] → after ≠ .betweenRecords := by
      intro single between
      obtain ⟨-, rfl⟩ := begin between
      exact writable.2 (by rw [single])
    rw [recordChars, List.append_assoc, List.foldl_append, read,
      foldl_step_furtherFields rest closed within, List.reverse_reverse, String.ofList_toList]
    rfl

/-! ## Tables -/

theorem foldl_step_recordsChars {table : List (List String)} (writable : ∀ r ∈ table, Writable r) :
    (table.flatMap recordChars).foldl step ⟨.betweenRecords, records, [], []⟩ =
      ⟨.betweenRecords, table.reverse ++ records, [], []⟩ := by
  induction table generalizing records with
  | nil => rfl
  | cons record table ih =>
    rw [List.flatMap_cons, List.foldl_append, foldl_step_recordChars (writable record (by simp)),
      ih fun r hr => writable r (List.mem_cons_of_mem _ hr), List.reverse_cons, List.append_assoc,
      List.singleton_append]

theorem dropMark_of_head? {cs : List Char} (unmarked : cs.head? ≠ some '\ufeff') :
    dropMark cs = cs := by
  unfold dropMark
  split
  · exact absurd rfl unmarked
  · rfl

/-- Reading the text of a table gives the table. -/
theorem Table.parse_tableText {t : Table} (writable : ∀ r ∈ t.header :: t.rows, Writable r)
    (unmarked : t.text.toList.head? ≠ some '\ufeff') : Table.parse t.text = t := by
  have all : Csv.records t.text = t.header :: t.rows := by
    rw [Csv.records, dropMark_of_head? unmarked, Table.text, String.toList_ofList,
      foldl_step_recordsChars writable, Progress.finish, List.append_nil, List.reverse_reverse]
  rw [Table.parse, all]

end Metering.Csv
