import Metering.Text.Split

/-! # File trees

The files that a run works on, as a value.  A file or directory is identified by its place, the
names on the way to it from the root.  A path is a text; it is followed step by step from the
working directory, or from the root if it begins with a slash, and every step on the way must be a
directory.  A file holds a text in UTF-8, or bytes that are no text.

* `FileContent` — what a file holds;
* `FileTree` — files, directories and the working directory;
* `FileTree.locate` — the place that a path leads to;
* `FileTree.contentAt`, `FileTree.read`, `FileTree.write`, `FileTree.list`,
  `FileTree.makeDirectories` — what can be done with a path; each fails with a `FileFault`.
-/

namespace Metering

/-! ## Faults -/

/-- Why a file cannot be used. -/
inductive FileFault where
  | notFound
  | exists
  | notADirectory
  | isADirectory
  | nameTooLong
  | zeroInName
  /-- The file is there, but its bytes are no text. -/
  | noText
deriving DecidableEq

/-- The wording of a fault, with the number of the operating system. -/
def FileFault.message : FileFault → String
  | notFound => "No such file or directory (os error 2)"
  | .exists => "File exists (os error 17)"
  | notADirectory => "Not a directory (os error 20)"
  | isADirectory => "Is a directory (os error 21)"
  | nameTooLong => "File name too long (os error 36)"
  | zeroInName => "file name contained an unexpected NUL byte"
  | noText => "stream did not contain valid UTF-8"

/-! ## Paths -/

/-- A path taken apart. -/
structure Path where
  /-- The path begins with a slash. -/
  absolute : Bool
  steps : List String
  /-- The path ends with a slash, so it can only mean a directory. -/
  slashAtEnd : Bool
deriving DecidableEq

namespace Path

/-- The parts of a path. -/
def ofText (path : String) : Path where
  absolute := path.toList.head? = some '/'
  steps := ((Text.split '/' path.toList).filter fun step => !step.isEmpty).map String.ofList
  slashAtEnd := path.toList.getLast? = some '/'

/-- The steps to follow before a file is put at a path.  A slash at the end asks for a directory, so
the name before it is never looked at, but the way to it has to be there. -/
def stepsForWriting (p : Path) : List String :=
  let named := p.steps.getLast?.any fun last => last ≠ "." ∧ last ≠ ".."
  if p.slashAtEnd && named then p.steps.dropLast ++ ["."] else p.steps

/-- The path of a name inside a directory. -/
def join (directory name : String) : String :=
  if directory.isEmpty || directory.toList.getLast? = some '/' then directory ++ name
  else directory ++ "/" ++ name

/-- The name of the file that a path leads to. -/
def fileName? (path : String) : Option String :=
  match ((ofText path).steps.filter (· ≠ ".")).getLast? with
  | some ".." => none
  | name => name

/-- What follows the last point of a file name; a point at its start does not count. -/
def extension? (path : String) : Option String := do
  let name ← fileName? path
  let reversed := name.toList.reverse
  let ending := reversed.takeWhile (· ≠ '.')
  guard (ending.length + 1 < reversed.length)
  return String.ofList ending.reverse

end Path

/-! ## Contents -/

inductive FileContent where
  | text (s : String)
  | bytes (b : ByteArray) (noText : String.fromUTF8? b = none)

/-- The content of a file with some bytes. -/
def FileContent.ofBytes (b : ByteArray) : FileContent :=
  match said : String.fromUTF8? b with
  | some s => .text s
  | none => .bytes b said

theorem FileContent.ofBytes_toUTF8 (s : String) : ofBytes s.toUTF8 = .text s := by
  have said : String.fromUTF8? s.toUTF8 = some s := by
    unfold String.fromUTF8?
    rw [String.toUTF8_eq_toByteArray, dif_pos s.isValidUTF8]
    rfl
  unfold ofBytes
  split
  case h_1 found =>
    rw [said] at found
    cases found
    rfl
  case h_2 none =>
    rw [said] at none
    cases none

def FileContent.text? : FileContent → Option String
  | text s => some s
  | bytes .. => none

/-! ## Trees -/

structure FileTree where
  /-- The place that relative paths start from. -/
  current : List String := []
  files : List (List String × FileContent) := []
  directories : List (List String) := []

namespace FileTree

def isDirectory (t : FileTree) (place : List String) : Bool :=
  place.isEmpty || t.directories.contains place

def content? (t : FileTree) (place : List String) : Option FileContent :=
  t.files.lookup place

def mostNameBytes : Nat := 255

def mostPathBytes : Nat := 4095

/-- The place that some steps lead to.  Nothing needs to be at the place itself. -/
def walk (t : FileTree) (place : List String) : List String → Except FileFault (List String)
  | [] => .ok place
  | step :: rest =>
    if step = "." then t.walk place rest
    else if step = ".." then t.walk place.dropLast rest
    else if mostNameBytes < step.utf8ByteSize then .error .nameTooLong
    else
      let next := place ++ [step]
      -- a file on the way is told apart from nothing at all
      if rest.isEmpty || t.isDirectory next then t.walk next rest
      else if (t.content? next).isSome then .error .notADirectory
      else .error .notFound

/-- Checks what holds of a path regardless of any file. -/
def checkPath (path : String) : Except FileFault Unit :=
  if path.toList.contains '\x00' then .error .zeroInName
  else if path.isEmpty then .error .notFound
  else if mostPathBytes < path.utf8ByteSize then .error .nameTooLong
  else .ok ()

def start (t : FileTree) (p : Path) : List String :=
  if p.absolute then [] else t.current

/-- The place that a path leads to. -/
def locate (t : FileTree) (path : String) : Except FileFault (List String) := do
  checkPath path
  let p := Path.ofText path
  t.walk (t.start p) p.steps

/-- The content of the file at a path. -/
def contentAt (t : FileTree) (path : String) : Except FileFault FileContent := do
  let place ← t.locate path
  match t.content? place with
  | some content =>
    if (Path.ofText path).slashAtEnd then .error .notADirectory else .ok content
  | none => .error (if t.isDirectory place then .isADirectory else .notFound)

/-- The text of the file at a path. -/
def read (t : FileTree) (path : String) : Except FileFault String := do
  match ← t.contentAt path with
  | .text s => .ok s
  | .bytes .. => .error .noText

def putFile (place : List String) (content : FileContent) :
    List (List String × FileContent) → List (List String × FileContent)
  | [] => [(place, content)]
  | (other, old) :: rest =>
    if other = place then (place, content) :: rest
    else (other, old) :: putFile place content rest

/-- The tree with a text in the file at a path, whose directory must be there. -/
def write (t : FileTree) (path content : String) : Except FileFault FileTree := do
  checkPath path
  let p := Path.ofText path
  let place ← t.walk (t.start p) p.stepsForWriting
  if t.isDirectory place || p.slashAtEnd then .error .isADirectory
  else .ok { t with files := putFile place (.text content) t.files }

def list (t : FileTree) (path : String) : Except FileFault (List String) := do
  let place ← t.locate path
  if t.isDirectory place then
    let places := t.files.map (·.1) ++ t.directories
    .ok ((places.filter fun p => p ≠ [] ∧ p.dropLast = place).filterMap List.getLast?)
  else .error (if (t.content? place).isSome then .notADirectory else .notFound)

/-! ## Directories -/

/-- The tree with a new directory, whose own directory must be there. -/
def makeDirectory (t : FileTree) (absolute : Bool) (steps : List String) :
    Except FileFault FileTree := do
  let place ← t.walk (if absolute then [] else t.current) steps
  if t.isDirectory place || (t.content? place).isSome then .error .exists
  else .ok { t with directories := t.directories ++ [place] }

def isDirectoryAt (t : FileTree) (absolute : Bool) (steps : List String) : Bool :=
  match t.walk (if absolute then [] else t.current) steps with
  | .ok place => t.isDirectory place
  | .error _ => false

/-- Makes a directory whose own directory is there; one that exists already is no fault. -/
def ensureDirectory (t : FileTree) (absolute : Bool) (steps : List String) :
    Except FileFault FileTree :=
  match t.makeDirectory absolute steps with
  | .ok t => .ok t
  | .error fault => if t.isDirectoryAt absolute steps then .ok t else .error fault

/-- Makes the first of some directories, after the others if the way to it is missing.  The tree
holds what has been made also if that fails. -/
def ensureAfter (t : FileTree) (absolute : Bool) :
    List (List String) → Except FileFault Unit × FileTree
  | [] => (.ok (), t)
  | steps :: shorter =>
    let settle (t : FileTree) :=
      match t.ensureDirectory absolute steps with
      | .ok t => (.ok (), t)
      | .error fault => (.error fault, t)
    match t.makeDirectory absolute steps with
    | .error .notFound =>
      -- something on the way is missing: the shorter ways first, and then once more
      match t.ensureAfter absolute shorter with
      | (.ok (), t) => settle t
      | failed => failed
    | _ => settle t

/-- The steps of a path and those to the directories on the way to it, the longest first.  A point
is no step of its own; one at the end asks for a directory that is there. -/
def wayTo (p : Path) : List (List String) :=
  let steps := p.steps.filter (· ≠ ".")
  let whole := if p.steps.getLast? = some "." then steps ++ ["."] else steps
  whole :: ((List.range (steps.length - 1)).reverse.map fun n => steps.take (n + 1))

/-- Makes a directory and those on the way to it. -/
def makeDirectories (t : FileTree) (path : String) : Except FileFault Unit × FileTree :=
  if path.isEmpty then (.ok (), t)
  else
    match checkPath path with
    | .error fault => (.error fault, t)
    | .ok () =>
      let p := Path.ofText path
      t.ensureAfter p.absolute (wayTo p)

/-! ## Places under the working directory -/

/-- The relative path of a place under a directory. -/
def relative? (directory place : List String) : Option String :=
  if directory.isPrefixOf place then some ("/".intercalate (place.drop directory.length)) else none

/-- The texts under the working directory by the relative paths of their files. -/
def currentFiles (t : FileTree) : List (String × String) :=
  t.files.filterMap fun (place, content) => do return (← relative? t.current place, ← content.text?)

/-- A tree with nothing but its working directory. -/
def empty (current : List String) : FileTree where
  current := current
  directories := (List.range current.length).map fun n => current.take (n + 1)

end FileTree

end Metering
