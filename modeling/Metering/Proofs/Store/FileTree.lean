import Metering.Store.FileTree

/-!
# Reading what has been written

A file that is put at a path is found at that path, and no other place changes.  Making directories
changes no file.  Where a path leads depends on the directories alone, as long as it leads
somewhere, so it leads to the same place before and after a file is written or a directory is made.

* `Leads` — the steps that lead from a place to another one
* `Grows` — a tree in which every path that leads somewhere leads to the same place
* `contentAt_eq_ok_iff`, `read_eq_ok_iff` — what can be read
* `exists_place_of_write` — all that writing does
* `read_of_write` — reading after writing
* `widens_makeDirectories` — directories are made beside the files
-/

namespace Metering.FileTree

variable {t t' : FileTree} {path content : String}

/-! ## Files -/

theorem lookup_putFile_self (place : List String) (content : FileContent)
    (files : List (List String × FileContent)) :
    (putFile place content files).lookup place = some content := by
  induction files with
  | nil => simp [putFile]
  | cons file files ih =>
    obtain ⟨other, old⟩ := file
    by_cases same : other = place
    · simp [putFile, same]
    · have different : (place == other) = false := by simpa using Ne.symm same
      simp [putFile, same, List.lookup_cons, different, ih]

theorem lookup_putFile_of_ne {place other : List String} (ne : other ≠ place)
    (content : FileContent) (files : List (List String × FileContent)) :
    (putFile place content files).lookup other = files.lookup other := by
  have different : (other == place) = false := by simpa using ne
  induction files with
  | nil => simp [putFile, List.lookup_cons, different]
  | cons file files ih =>
    obtain ⟨first, old⟩ := file
    by_cases same : first = place
    · subst same
      simp [putFile, List.lookup_cons, different]
    · simp [putFile, same, List.lookup_cons, ih]

/-! ## Paths -/

theorem isDirectory_of_subset (directories : t.directories ⊆ t'.directories) {place : List String}
    (here : t.isDirectory place = true) : t'.isDirectory place = true := by
  rw [isDirectory, Bool.or_eq_true] at here ⊢
  apply here.imp_right
  simp only [List.contains_iff_mem]
  exact fun member => directories member

/-- The steps lead from a place to another one. -/
inductive Leads (t : FileTree) : List String → List String → List String → Prop
  | here (place : List String) : Leads t place [] place
  | point {place steps there : List String} (rest : Leads t place steps there) :
      Leads t place ("." :: steps) there
  | up {place steps there : List String} (rest : Leads t place.dropLast steps there) :
      Leads t place (".." :: steps) there
  | down {place steps there : List String} {step : String} (point : step ≠ ".") (up : step ≠ "..")
      (short : step.utf8ByteSize ≤ mostNameBytes)
      (passable : steps = [] ∨ t.isDirectory (place ++ [step]) = true)
      (rest : Leads t (place ++ [step]) steps there) : Leads t place (step :: steps) there

theorem leads_of_walk {steps place there : List String} (found : t.walk place steps = .ok there) :
    t.Leads place steps there := by
  induction steps generalizing place with
  | nil =>
    cases found
    exact .here _
  | cons step steps ih =>
    rw [walk] at found
    split at found
    case isTrue point =>
      subst point
      exact .point (ih found)
    case isFalse point =>
      split at found
      case isTrue up =>
        subst up
        exact .up (ih found)
      case isFalse up =>
        split at found
        case isTrue => cases found
        case isFalse short =>
          dsimp only at found
          split at found
          case isTrue passable =>
            rw [Bool.or_eq_true, List.isEmpty_iff] at passable
            exact .down point up (Nat.le_of_not_lt short) passable (ih found)
          case isFalse => split at found <;> cases found

theorem Leads.walk_eq {steps place there : List String} (leads : t.Leads place steps there) :
    t.walk place steps = .ok there := by
  induction leads with
  | here place => rfl
  | point _ ih =>
    rw [walk, if_pos rfl]
    exact ih
  | up _ ih =>
    rw [walk, if_neg (by decide), if_pos rfl]
    exact ih
  | down point up short passable _ ih =>
    rw [← List.isEmpty_iff, ← Bool.or_eq_true] at passable
    rw [walk, if_neg point, if_neg up, if_neg (Nat.not_lt.2 short)]
    dsimp only
    rw [if_pos passable]
    exact ih

/-- Files only say why a path leads nowhere, and more directories lead nowhere else. -/
theorem Leads.mono (directories : t.directories ⊆ t'.directories) {steps place there : List String}
    (leads : t.Leads place steps there) : t'.Leads place steps there := by
  induction leads with
  | here place => exact .here place
  | point _ ih => exact .point ih
  | up _ ih => exact .up ih
  | down point up short passable _ ih =>
    exact .down point up short (passable.imp_right (isDirectory_of_subset directories)) ih

theorem locate_eq_ok_iff {place : List String} :
    t.locate path = .ok place ↔
      checkPath path = .ok () ∧
        t.Leads (t.start (Path.ofText path)) (Path.ofText path).steps place := by
  rw [locate]
  cases checked : checkPath path with
  | error fault => exact ⟨nofun, nofun⟩
  | ok _ => exact ⟨fun walked => ⟨rfl, leads_of_walk walked⟩, fun found => found.2.walk_eq⟩

/-- The second tree has all directories of the first. -/
structure Grows (t t' : FileTree) : Prop where
  directories : t.directories ⊆ t'.directories
  current : t'.current = t.current

theorem Grows.refl (t : FileTree) : Grows t t :=
  ⟨List.Subset.refl _, rfl⟩

theorem Grows.trans {t'' : FileTree} (first : Grows t t') (second : Grows t' t'') : Grows t t'' :=
  ⟨List.Subset.trans first.directories second.directories, second.current.trans first.current⟩

theorem Grows.locate_eq_ok (grows : Grows t t') {place : List String}
    (found : t.locate path = .ok place) : t'.locate path = .ok place := by
  obtain ⟨checked, leads⟩ := locate_eq_ok_iff.1 found
  have start : t'.start (Path.ofText path) = t.start (Path.ofText path) := by
    simp only [start, grows.current]
  refine locate_eq_ok_iff.2 ⟨checked, ?_⟩
  rw [start]
  exact leads.mono grows.directories

/-! ## Reading -/

theorem contentAt_eq_ok_iff {found : FileContent} :
    t.contentAt path = .ok found ↔
      ∃ place, t.locate path = .ok place ∧ t.content? place = some found ∧
        (Path.ofText path).slashAtEnd = false := by
  rw [contentAt]
  cases t.locate path with
  | error fault => simp [bind, Except.bind]
  | ok place =>
    cases held : t.content? place with
    | none => simp [bind, Except.bind, held]
    | some other =>
      cases slash : (Path.ofText path).slashAtEnd <;> simp [bind, Except.bind, held]

theorem read_eq_ok_iff_contentAt :
    t.read path = .ok content ↔ t.contentAt path = .ok (.text content) := by
  rw [read]
  cases t.contentAt path with
  | error fault => exact ⟨nofun, nofun⟩
  | ok found => cases found <;> simp [bind, Except.bind]

theorem read_eq_ok_iff :
    t.read path = .ok content ↔
      ∃ place, t.locate path = .ok place ∧ t.content? place = some (.text content) ∧
        (Path.ofText path).slashAtEnd = false :=
  read_eq_ok_iff_contentAt.trans contentAt_eq_ok_iff

/-- A file that is not refused for holding no text cannot be opened. -/
theorem contentAt_eq_error_of_read {fault : FileFault} (failed : t.read path = .error fault)
    (other : fault ≠ .noText) : t.contentAt path = .error fault := by
  rw [read] at failed
  cases opened : t.contentAt path with
  | error fault =>
    rw [opened] at failed
    cases failed
    rfl
  | ok found =>
    rw [opened] at failed
    cases found with
    | text s => cases failed
    | bytes b none =>
      cases failed
      exact absurd rfl other

/-- Where a path leads is told by the directories alone. -/
theorem read_of_located {place : List String}
    (found : (FileTree.mk t.current [] t.directories).locate path = .ok place)
    (file : (Path.ofText path).slashAtEnd = false)
    (held : t.content? place = some (.text content)) : t.read path = .ok content := by
  have grows : (FileTree.mk t.current [] t.directories).Grows t := ⟨List.Subset.refl _, rfl⟩
  exact read_eq_ok_iff.2 ⟨place, grows.locate_eq_ok found, held, file⟩

/-! ## Writing -/

/-- Writing puts one file at the place that the path leads to. -/
theorem exists_place_of_write (written : t.write path content = .ok t') :
    ∃ place, t.locate path = .ok place ∧ (Path.ofText path).slashAtEnd = false ∧
      t' = { t with files := putFile place (.text content) t.files } := by
  rw [write] at written
  cases checked : checkPath path with
  | error fault =>
    rw [checked] at written
    cases written
  | ok _ =>
    rw [checked] at written
    cases walked : t.walk (t.start (Path.ofText path)) (Path.ofText path).stepsForWriting with
    | error fault => simp [bind, Except.bind, walked] at written
    | ok place =>
      simp only [bind, Except.bind, walked] at written
      split at written
      case isTrue => cases written
      case isFalse allowed =>
        simp only [Bool.or_eq_true, not_or, Bool.not_eq_true] at allowed
        -- a path for writing ends in no slash, so it leads where it leads for reading
        have steps : (Path.ofText path).stepsForWriting = (Path.ofText path).steps := by
          simp [Path.stepsForWriting, allowed.2]
        rw [steps] at walked
        refine ⟨place, ?_, allowed.2, (Except.ok.inj written).symm⟩
        rw [locate, checked]
        exact walked

theorem content?_putFile_self (place : List String) (content : FileContent) :
    content? { t with files := putFile place content t.files } place = some content :=
  lookup_putFile_self place content t.files

theorem content?_putFile_of_ne {place other : List String} (ne : other ≠ place)
    (content : FileContent) :
    content? { t with files := putFile place content t.files } other = t.content? other :=
  lookup_putFile_of_ne ne content t.files

theorem read_of_write (written : t.write path content = .ok t') : t'.read path = .ok content := by
  obtain ⟨place, found, slash, rfl⟩ := exists_place_of_write written
  have grows : Grows t { t with files := putFile place (.text content) t.files } :=
    ⟨List.Subset.refl _, rfl⟩
  exact read_eq_ok_iff.2
    ⟨place, grows.locate_eq_ok found, content?_putFile_self place _, slash⟩

/-! ## Making directories -/

/-- The second tree differs from the first by further directories alone. -/
structure Widens (t t' : FileTree) : Prop extends Grows t t' where
  files : t'.files = t.files

theorem Widens.refl (t : FileTree) : Widens t t :=
  ⟨.refl t, rfl⟩

theorem Widens.trans {t'' : FileTree} (first : Widens t t') (second : Widens t' t'') :
    Widens t t'' :=
  ⟨first.toGrows.trans second.toGrows, second.files.trans first.files⟩

theorem widens_makeDirectory {absolute : Bool} {steps : List String}
    (made : t.makeDirectory absolute steps = .ok t') : Widens t t' := by
  rw [makeDirectory] at made
  cases walked : t.walk (if absolute then [] else t.current) steps with
  | error fault => simp [bind, Except.bind, walked] at made
  | ok place =>
    simp only [bind, Except.bind, walked] at made
    split at made
    case isTrue => cases made
    case isFalse =>
      cases made
      exact ⟨⟨List.subset_append_left _ _, rfl⟩, rfl⟩

theorem widens_ensureDirectory {absolute : Bool} {steps : List String}
    (made : t.ensureDirectory absolute steps = .ok t') : Widens t t' := by
  unfold ensureDirectory at made
  split at made
  case h_1 done =>
    cases made
    exact widens_makeDirectory done
  case h_2 =>
    split at made
    case isTrue =>
      cases made
      exact .refl t
    case isFalse => cases made

theorem widens_ensureAfter (t : FileTree) (absolute : Bool) (ways : List (List String)) :
    Widens t (t.ensureAfter absolute ways).2 := by
  induction ways with
  | nil => exact .refl t
  | cons steps shorter ih =>
    unfold ensureAfter
    dsimp only
    split
    case h_1 =>
      -- the way to the directory is missing, so the shorter ways come first
      split
      case h_1 reached =>
        rw [reached] at ih
        split
        case h_1 made => exact ih.trans (widens_ensureDirectory made)
        case h_2 => exact ih
      case h_2 => exact ih
    case h_2 =>
      split
      case h_1 made => exact widens_ensureDirectory made
      case h_2 => exact .refl t

theorem widens_makeDirectories (t : FileTree) (path : String) :
    Widens t (t.makeDirectories path).2 := by
  unfold makeDirectories
  split
  case isTrue => exact .refl t
  case isFalse =>
    split
    case h_1 => exact .refl t
    case h_2 => exact widens_ensureAfter _ _ _

end Metering.FileTree
