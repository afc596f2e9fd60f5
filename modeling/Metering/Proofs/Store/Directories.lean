import Mathlib.Data.List.Basic
import Mathlib.Tactic.ByContra
import Metering.Proofs.Store.FileTree

/-!
# Files in the directory of a store

A directory that is there, or that only has to be made, has a place, and the files in it have the
places below it, one for each name.  What can be done with the path of a name in the directory is
told by the place and the name alone; the system refuses a name that is too long.

* `Path.ofText_join` — the parts of the path of a name in a directory
* `FileTree.Shelf` — a path that leads to a directory of files, or to where it can be made
* `FileTree.Fits` — the names that the system takes
* `FileTree.makeDirectories_of_locate` — making the directory
* `FileTree.Shelf.read_join`, `FileTree.Shelf.write_join` — reading and writing a file in it
* `FileTree.Shelf.exists_list` — the names in it
-/

namespace Metering

/-! ## Names and paths -/

namespace Path

/-- A text that names a file in a directory. -/
structure IsFileName (name : String) : Prop where
  ne_empty : name.toList ≠ []
  no_slash : '/' ∉ name.toList
  ne_point : name ≠ "."
  ne_points : name ≠ ".."

theorem IsFileName.getLast?_ne {name : String} (named : IsFileName name) :
    name.toList.getLast? ≠ some '/' :=
  fun last => named.no_slash (List.mem_of_getLast? last)

def stepsOf (pieces : List (List Char)) : List String :=
  (pieces.filter fun piece => !piece.isEmpty).map String.ofList

theorem stepsOf_append (before after : List (List Char)) :
    stepsOf (before ++ after) = stepsOf before ++ stepsOf after := by
  rw [stepsOf, List.filter_append, List.map_append]
  rfl

theorem stepsOf_name {name : String} (named : IsFileName name) :
    stepsOf (Text.split '/' name.toList) = [name] := by
  rw [Text.split_of_not_mem named.no_slash]
  simp [stepsOf, named.ne_empty]

theorem ofText_eq (path : String) :
    ofText path = ⟨path.toList.head? = some '/', stepsOf (Text.split '/' path.toList),
      path.toList.getLast? = some '/'⟩ := rfl

/-- A name after a slash is one more step. -/
theorem ofText_append_name {path name : String} {before : List Char} (named : IsFileName name)
    (written : path.toList = before ++ name.toList) (slash : before.getLast? = some '/') :
    ofText path = ⟨before.head? = some '/', stepsOf (Text.split '/' before) ++ [name], false⟩ := by
  obtain ⟨way, rfl⟩ := List.getLast?_eq_some_iff.1 slash
  have steps : stepsOf (Text.split '/' path.toList) =
      stepsOf (Text.split '/' (way ++ ['/'])) ++ [name] := by
    rw [written, List.append_assoc, List.singleton_append, Text.split_append,
      Text.split_append '/' way [], stepsOf_append, stepsOf_append, stepsOf_name named]
    simp [stepsOf, Text.split]
  have last : path.toList.getLast? ≠ some '/' := by
    rw [written, List.getLast?_append_of_ne_nil _ named.ne_empty]
    exact named.getLast?_ne
  have head : path.toList.head? = (way ++ ['/']).head? := by
    rw [written]
    cases way <;> rfl
  rw [ofText_eq, steps, head]
  simp [last]

/-- The slash between a directory and a name adds no step, and it may be the directory's own. -/
theorem ofText_join (directory : String) {name : String} (named : IsFileName name) :
    ofText (join directory name) =
      ⟨(ofText directory).absolute, (ofText directory).steps ++ [name], false⟩ := by
  rw [join]
  by_cases closed : (directory.isEmpty || directory.toList.getLast? = some '/') = true
  · rw [if_pos closed]
    simp only [Bool.or_eq_true, decide_eq_true_eq, String.isEmpty_iff] at closed
    cases closed with
    | inl empty =>
      have head : name.toList.head? ≠ some '/' :=
        fun first => named.no_slash (List.mem_of_mem_head? first)
      rw [empty, String.empty_append, ofText_eq, stepsOf_name named]
      simp [named.getLast?_ne, head, ofText, Text.split]
    | inr slash => exact ofText_append_name named String.toList_append slash
  · rw [if_neg closed]
    simp only [Bool.or_eq_true, String.isEmpty_iff, not_or] at closed
    have nonempty : directory.toList ≠ [] := by simpa using closed.1
    have written : (directory ++ "/" ++ name).toList =
        (directory.toList ++ ['/']) ++ name.toList := by simp
    have head : (directory.toList ++ ['/']).head? = directory.toList.head? :=
      List.head?_append_of_ne_nil _ nonempty
    have steps : stepsOf (Text.split '/' (directory.toList ++ ['/'])) =
        stepsOf (Text.split '/' directory.toList) := by
      rw [Text.split_append, stepsOf_append]
      simp [stepsOf, Text.split]
    rw [ofText_append_name named written (by simp), head, steps]
    rfl

end Path

/-! ## Shelves -/

namespace FileTree

/-- The tree with a directory at a place. -/
def withDirectory (t : FileTree) (place : List String) : FileTree :=
  if t.isDirectory place then t else { t with directories := t.directories ++ [place] }

def withFile (t : FileTree) (place : List String) (content : String) : FileTree :=
  { t with files := putFile place (.text content) t.files }

/-- A directory that holds nothing but files.  If it is not there yet, nothing stands in the way of
making it. -/
structure Shelf (t : FileTree) (directory : String) (place : List String) : Prop where
  located : t.locate directory = .ok place
  free : t.isDirectory place = true ∨ t.content? place = none
  flat : ∀ name, t.isDirectory (place ++ [name]) = false
  made : ∀ name, t.content? (place ++ [name]) ≠ none → t.isDirectory place = true

/-- The system takes the path of a name in a directory. -/
def Fits (directory name : String) : Prop :=
  checkPath (Path.join directory name) = .ok () ∧ name.utf8ByteSize ≤ mostNameBytes

instance (directory name : String) : Decidable (Fits directory name) :=
  inferInstanceAs (Decidable (_ ∧ _))

variable {t : FileTree} {directory name : String} {place other : List String}

/-- A directory without directories of its own is empty if there are no files. -/
theorem shelf_of_no_files (files : t.files = []) (located : t.locate directory = .ok place)
    (flat : ∀ other ∈ t.directories, other.dropLast ≠ place) : t.Shelf directory place := by
  have nothing (other : List String) : t.content? other = none := by
    rw [content?, files]
    rfl
  refine ⟨located, .inr (nothing place), fun name => ?_, fun name there => ?_⟩
  · have absent : place ++ [name] ∉ t.directories := fun member =>
      flat _ member List.dropLast_concat
    simp [isDirectory, absent]
  · exact absurd (nothing _) there

/-! ### Trees with one more directory or file -/

theorem directories_withDirectory (t : FileTree) (place : List String) :
    t.directories ⊆ (t.withDirectory place).directories := by
  unfold withDirectory
  split
  case isTrue => exact List.Subset.refl _
  case isFalse => exact List.subset_append_left _ _

@[simp] theorem current_withDirectory (t : FileTree) (place : List String) :
    (t.withDirectory place).current = t.current := by
  unfold withDirectory
  split <;> rfl

@[simp] theorem files_withDirectory (t : FileTree) (place : List String) :
    (t.withDirectory place).files = t.files := by
  unfold withDirectory
  split <;> rfl

@[simp] theorem content?_withDirectory (t : FileTree) (place other : List String) :
    (t.withDirectory place).content? other = t.content? other := by
  simp [content?]

theorem isDirectory_withDirectory_iff :
    (t.withDirectory place).isDirectory other = true ↔ t.isDirectory other = true ∨ other = place := by
  unfold withDirectory
  split
  case isTrue here =>
    refine ⟨.inl, ?_⟩
    rintro (there | rfl)
    · exact there
    · exact here
  case isFalse =>
    simp only [isDirectory, Bool.or_eq_true, List.contains_iff_mem, List.mem_append,
      List.mem_singleton, or_assoc]

theorem isDirectory_withDirectory_self (t : FileTree) (place : List String) :
    (t.withDirectory place).isDirectory place = true :=
  isDirectory_withDirectory_iff.2 (.inr rfl)

@[simp] theorem isDirectory_withFile (t : FileTree) (place other : List String) (content : String) :
    (t.withFile place content).isDirectory other = t.isDirectory other := rfl

theorem content?_withFile_self (t : FileTree) (place : List String) (content : String) :
    (t.withFile place content).content? place = some (.text content) :=
  content?_putFile_self place _

theorem content?_withFile_of_ne (ne : other ≠ place) (content : String) :
    (t.withFile place content).content? other = t.content? other :=
  content?_putFile_of_ne ne _

theorem Shelf.withDirectory (shelf : t.Shelf directory place)
    (apart : other = place ∨ ¬ place <+: other) :
    (t.withDirectory other).Shelf directory place := by
  refine ⟨?_, ?_, ?_, ?_⟩
  · have grows : t.Grows (t.withDirectory other) := ⟨directories_withDirectory t other, by simp⟩
    exact grows.locate_eq_ok shelf.located
  · rw [content?_withDirectory, isDirectory_withDirectory_iff]
    exact shelf.free.imp_left .inl
  · intro name
    rw [Bool.eq_false_iff, ne_eq, isDirectory_withDirectory_iff, shelf.flat]
    rintro (there | below)
    · cases there
    · -- a directory below the place is neither the place nor apart from it
      cases apart with
      | inl same => simp [same] at below
      | inr apart => exact apart (below ▸ List.prefix_append _ _)
  · intro name there
    rw [content?_withDirectory] at there
    exact isDirectory_withDirectory_iff.2 (.inl (shelf.made name there))

theorem Shelf.withFile (shelf : t.Shelf directory place) (content : String)
    (apart : other ≠ place) (made : ∀ name, other = place ++ [name] → t.isDirectory place = true) :
    (t.withFile other content).Shelf directory place := by
  refine ⟨?_, ?_, ?_, ?_⟩
  · have grows : t.Grows (t.withFile other content) := ⟨List.Subset.refl _, rfl⟩
    exact grows.locate_eq_ok shelf.located
  · rw [content?_withFile_of_ne apart.symm]
    exact shelf.free
  · exact shelf.flat
  · intro name there
    by_cases same : other = place ++ [name]
    · exact made name same
    · rw [content?_withFile_of_ne (Ne.symm same)] at there
      exact shelf.made name there

/-! ### Making the directory -/

/-- Points lead nowhere, so they may be left out, but for one at the end: it asks for a directory
that is there. -/
theorem Leads.filter {start steps there : List String} (leads : t.Leads start steps there) :
    t.Leads start
      (if steps.getLast? = some "." then steps.filter (· ≠ ".") ++ ["."]
        else steps.filter (· ≠ ".")) there := by
  induction leads with
  | here place => exact .here place
  | @point place steps there rest ih =>
    rw [List.filter_cons_of_neg (by simp)]
    cases steps with
    | nil =>
      cases rest
      exact .point (.here place)
    | cons step steps => exact ih
  | @up place steps there rest ih =>
    rw [List.filter_cons_of_pos (by simp)]
    cases steps with
    | nil =>
      cases rest
      exact .up (.here _)
    | cons step steps =>
      rw [List.getLast?_cons_cons]
      split
      all_goals
        rename_i last
        simp only [last, if_true, if_false] at ih
        exact .up ih
  | @down place steps there step point up short passable rest ih =>
    rw [List.filter_cons_of_pos (by simpa using point)]
    cases steps with
    | nil =>
      cases rest
      rw [if_neg (by simpa using point)]
      exact .down point up short (.inl rfl) (.here _)
    | cons next steps =>
      rw [List.getLast?_cons_cons]
      have way := passable.resolve_left (List.cons_ne_nil _ _)
      split
      all_goals
        rename_i last
        simp only [last, if_true, if_false] at ih
        exact .down point up short (.inr way) ih

theorem makeDirectory_of_leads {absolute : Bool} {steps : List String}
    (leads : t.Leads (if absolute then [] else t.current) steps place)
    (free : t.isDirectory place = true ∨ t.content? place = none) :
    t.ensureDirectory absolute steps = .ok (t.withDirectory place) ∧
      t.makeDirectory absolute steps ≠ .error .notFound := by
  have walked := leads.walk_eq
  by_cases here : t.isDirectory place = true
  · have made : t.makeDirectory absolute steps = .error .exists := by
      simp [makeDirectory, walked, bind, Except.bind, here]
    simp [ensureDirectory, made, isDirectoryAt, walked, here, withDirectory]
  · have nothing := free.resolve_left here
    have made : t.makeDirectory absolute steps =
        .ok { t with directories := t.directories ++ [place] } := by
      simp [makeDirectory, walked, bind, Except.bind, here, nothing]
    simp [ensureDirectory, made, withDirectory, here]

/-- Only the directory itself is made, if the way to it is there. -/
theorem makeDirectories_of_locate (located : t.locate directory = .ok place)
    (free : t.isDirectory place = true ∨ t.content? place = none) :
    t.makeDirectories directory = (.ok (), t.withDirectory place) := by
  obtain ⟨checked, leads⟩ := locate_eq_ok_iff.1 located
  have nonempty : directory.isEmpty = false := by
    cases empty : directory.isEmpty with
    | false => rfl
    | true => simp [String.isEmpty_iff.1 empty, checkPath] at checked
  obtain ⟨ensured, found⟩ := makeDirectory_of_leads leads.filter free
  rw [FileTree.makeDirectories, nonempty, if_neg Bool.false_ne_true, checked]
  dsimp only
  rw [wayTo, ensureAfter]
  dsimp only
  split
  case h_1 missing => exact absurd missing found
  case h_2 =>
    rw [ensured]

theorem Shelf.makeDirectories (shelf : t.Shelf directory place) :
    t.makeDirectories directory = (.ok (), t.withDirectory place) :=
  makeDirectories_of_locate shelf.located shelf.free

/-! ### Files in the directory -/

/-- After the steps to a directory, a name leads into it. -/
theorem Leads.walk_append {start steps : List String} (leads : t.Leads start steps place)
    (here : t.isDirectory place = true) (named : Path.IsFileName name) :
    t.walk start (steps ++ [name]) =
      if mostNameBytes < name.utf8ByteSize then .error .nameTooLong else .ok (place ++ [name]) := by
  induction leads with
  | here place =>
    rw [List.nil_append, walk, if_neg named.ne_point, if_neg named.ne_points]
    rfl
  | point _ ih =>
    rw [List.cons_append, walk, if_pos rfl]
    exact ih here
  | up _ ih =>
    rw [List.cons_append, walk, if_neg (by decide), if_pos rfl]
    exact ih here
  | @down place steps there step point up short passable rest ih =>
    have way : t.isDirectory (place ++ [step]) = true := by
      cases passable with
      | inl last =>
        subst last
        cases rest
        exact here
      | inr way => exact way
    rw [List.cons_append, walk, if_neg point, if_neg up, if_neg (Nat.not_lt.2 short)]
    dsimp only
    rw [way, Bool.or_true, if_pos rfl]
    exact ih here

/-- After the steps to a directory that has not been made, a name leads to nothing. -/
theorem Leads.walk_append_missing {start steps : List String} (leads : t.Leads start steps place)
    (missing : t.isDirectory place = false) (nothing : t.content? place = none)
    (named : Path.IsFileName name) (short : name.utf8ByteSize ≤ mostNameBytes) :
    t.walk start (steps ++ [name]) = .error .notFound ∨
      t.walk start (steps ++ [name]) = .ok (place ++ [name]) := by
  induction leads with
  | here place =>
    right
    rw [List.nil_append, walk, if_neg named.ne_point, if_neg named.ne_points,
      if_neg (Nat.not_lt.2 short)]
    rfl
  | point _ ih =>
    rw [List.cons_append, walk, if_pos rfl]
    exact ih missing nothing
  | up _ ih =>
    rw [List.cons_append, walk, if_neg (by decide), if_pos rfl]
    exact ih missing nothing
  | @down place steps there step point up short' passable rest ih =>
    rw [List.cons_append, walk, if_neg point, if_neg up, if_neg (Nat.not_lt.2 short')]
    dsimp only
    cases passable with
    | inl last =>
      subst last
      cases rest
      left
      simp [missing, nothing]
    | inr way =>
      rw [way, Bool.or_true, if_pos rfl]
      exact ih missing nothing

theorem start_join (t : FileTree) (directory : String) (named : Path.IsFileName name) :
    t.start (Path.ofText (Path.join directory name)) = t.start (Path.ofText directory) := by
  rw [Path.ofText_join directory named]
  rfl

theorem stepsForWriting_join (directory : String) (named : Path.IsFileName name) :
    (Path.ofText (Path.join directory name)).stepsForWriting =
      (Path.ofText directory).steps ++ [name] := by
  rw [Path.ofText_join directory named]
  rfl

theorem checkPath_ne_notFound {fault : FileFault} (named : Path.IsFileName name)
    (refused : checkPath (Path.join directory name) = .error fault) : fault ≠ .notFound := by
  have nonempty : (Path.join directory name).isEmpty = false := by
    rw [← Bool.not_eq_true, String.isEmpty_iff, ← String.toList_eq_nil_iff]
    unfold Path.join
    split <;> simp [named.ne_empty]
  rw [checkPath, nonempty] at refused
  split at refused
  case isTrue =>
    cases refused
    exact nofun
  case isFalse =>
    rw [if_neg Bool.false_ne_true] at refused
    split at refused
    case isTrue =>
      cases refused
      exact nofun
    case isFalse => cases refused

/-- The system refuses a path that it does not take for one and the same reason, whatever files
there are. -/
theorem exists_fault_of_not_fits (refused : ¬ Fits directory name) (named : Path.IsFileName name) :
    ∃ fault, fault ≠ .notFound ∧
      ∀ {t : FileTree} {place : List String}, t.Shelf directory place →
        t.isDirectory place = true →
          t.read (Path.join directory name) = .error fault ∧
            ∀ content, t.write (Path.join directory name) content = .error fault := by
  cases found : checkPath (Path.join directory name) with
  | error fault =>
    refine ⟨fault, checkPath_ne_notFound named found, fun _ _ => ⟨?_, fun content => ?_⟩⟩
    · rw [FileTree.read, contentAt, locate, found]
      rfl
    · rw [write, found]
      rfl
  | ok _ =>
    have long : mostNameBytes < name.utf8ByteSize := by
      by_contra short
      exact refused ⟨found, Nat.le_of_not_lt short⟩
    refine ⟨.nameTooLong, by decide, fun {t place} shelf here => ?_⟩
    have walked := (locate_eq_ok_iff.1 shelf.located).2.walk_append here named
    rw [if_pos long] at walked
    have located : t.locate (Path.join directory name) = .error .nameTooLong := by
      rw [locate, found]
      show t.walk (t.start _) _ = _
      rw [start_join t directory named, Path.ofText_join directory named, walked]
    refine ⟨?_, fun content => ?_⟩
    · rw [FileTree.read, contentAt, located]
      rfl
    · rw [write, found]
      simp only [bind, Except.bind, start_join t directory named,
        stepsForWriting_join directory named, walked]

/-- In a directory that is there, a file is written at the place of its name. -/
theorem Leads.write_join
    (leads : t.Leads (t.start (Path.ofText directory)) (Path.ofText directory).steps place)
    (here : t.isDirectory place = true) (named : Path.IsFileName name) (fits : Fits directory name)
    (file : t.isDirectory (place ++ [name]) = false) (content : String) :
    t.write (Path.join directory name) content = .ok (t.withFile (place ++ [name]) content) := by
  have walked := leads.walk_append here named
  rw [if_neg (Nat.not_lt.2 fits.2)] at walked
  have slash : (Path.ofText (Path.join directory name)).slashAtEnd = false := by
    rw [Path.ofText_join directory named]
  rw [write, fits.1]
  simp only [bind, Except.bind, start_join t directory named, stepsForWriting_join directory named,
    walked, slash, file, Bool.or_self, Bool.false_eq_true, if_false]
  rfl

section Files

variable (shelf : t.Shelf directory place) (named : Path.IsFileName name)

include shelf named

/-- What is found at the path of a name is the file at its place. -/
theorem Shelf.contentAt_join (fits : Fits directory name) :
    t.contentAt (Path.join directory name) =
      match t.content? (place ++ [name]) with
      | some content => .ok content
      | none => .error .notFound := by
  obtain ⟨checked, leads⟩ := locate_eq_ok_iff.1 shelf.located
  have located : t.locate (Path.join directory name) =
      t.walk (t.start (Path.ofText directory)) ((Path.ofText directory).steps ++ [name]) := by
    rw [locate, fits.1]
    show t.walk (t.start _) _ = _
    rw [start_join t directory named, Path.ofText_join directory named]
  -- a name that leads to its place leads to a file or to nothing
  have opened (found : t.locate (Path.join directory name) = .ok (place ++ [name])) :
      t.contentAt (Path.join directory name) =
        match t.content? (place ++ [name]) with
        | some content => .ok content
        | none => .error .notFound := by
    cases there : t.content? (place ++ [name]) <;>
      simp [contentAt, found, bind, Except.bind, Path.ofText_join directory named, shelf.flat,
        there]
  by_cases here : t.isDirectory place = true
  · apply opened
    rw [located, leads.walk_append here named, if_neg (Nat.not_lt.2 fits.2)]
  · have missing : t.isDirectory place = false := by simpa using here
    have nothing : t.content? (place ++ [name]) = none := by
      by_contra there
      exact here (shelf.made name there)
    have free := shelf.free.resolve_left here
    cases leads.walk_append_missing missing free named fits.2 with
    | inl absent =>
      rw [nothing]
      simp only [contentAt, located, absent, bind, Except.bind]
    | inr found =>
      apply opened
      rw [located, found]

theorem Shelf.write_join (here : t.isDirectory place = true) (fits : Fits directory name)
    (content : String) :
    t.write (Path.join directory name) content = .ok (t.withFile (place ++ [name]) content) :=
  (locate_eq_ok_iff.1 shelf.located).2.write_join here named fits (shelf.flat name) content

end Files

/-- Nothing is in a directory that has not been made. -/
theorem Shelf.list_missing (shelf : t.Shelf directory place)
    (missing : t.isDirectory place = false) : t.list directory = .error .notFound := by
  have nothing := shelf.free.resolve_left (by simp [missing])
  simp [FileTree.list, shelf.located, bind, Except.bind, missing, nothing]

/-- The names in a directory are those of its files. -/
theorem Shelf.exists_list (shelf : t.Shelf directory place) (here : t.isDirectory place = true) :
    ∃ names, t.list directory = .ok names ∧
      ∀ name, name ∈ names ↔ t.content? (place ++ [name]) ≠ none := by
  simp only [FileTree.list, shelf.located, bind, Except.bind, here, if_true]
  refine ⟨_, rfl, fun name => ?_⟩
  have held : t.content? (place ++ [name]) ≠ none ↔ place ++ [name] ∈ t.files.map (·.1) := by
    rw [content?, ← Option.isSome_iff_ne_none, List.lookup_isSome_iff, List.mem_map]
    simp
  have below : place ++ [name] ∉ t.directories := by
    have flat := shelf.flat name
    simp only [isDirectory, Bool.or_eq_false_iff, List.contains_eq_mem,
      decide_eq_false_iff_not] at flat
    exact flat.2
  rw [held, List.mem_filterMap]
  constructor
  · rintro ⟨other, member, last⟩
    rw [List.mem_filter, List.mem_append] at member
    have parent : other.dropLast = place := by simpa using (of_decide_eq_true member.2).2
    have whole : other = place ++ [name] := by
      rw [← parent, List.dropLast_append_getLast? _ last]
    rw [whole] at member
    exact member.1.resolve_right below
  · intro member
    refine ⟨place ++ [name], List.mem_filter.2 ⟨List.mem_append_left _ member, ?_⟩, by simp⟩
    simp

end FileTree

end Metering
