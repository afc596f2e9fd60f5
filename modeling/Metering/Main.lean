import Std.Time.DateTime.Timestamp
import Metering.Command.Usage

/-! # The program

Reads from the disk what a command may need, runs the command on it and writes back what the
command has made of the files.  What to do and what to say is decided by `Invocation.parse` and
`Command.run`.
-/

namespace Metering

/-! ## Places on the disk -/

def Command.paths : Command → List String
  | validate formula config _ => formula :: config.toList
  | submit config formula => [config, formula]
  | parse _ _ _ => []
  | calculate config request output => [config, request] ++ output.toList
  | listFormulas config => [config]

def Command.storeDirectories (c : Command) (t : FileTree) : List String :=
  match c.settingsPath?.map (Ini.ofFile t) with
  | some (.ok ini) =>
    ["series_dir", "formula_dir"].filterMap fun key => (ini.directory key).toOption
  | _ => []

/-- The places on the way along a path and the one at its end. -/
def placesAlong (current : List String) (path : String) : List (List String) :=
  let p := Path.ofText path
  let start := if p.absolute then [] else current
  let step (place : List String) (name : String) :=
    if name = "." then place else if name = ".." then place.dropLast else place ++ [name]
  (List.range (p.steps.length + 1)).map fun n => (p.steps.take n).foldl step start

/-- The absolute path of a place. -/
def pathOf (place : List String) : String :=
  "/" ++ "/".intercalate place

/-! ## Reading and writing -/

/-- Adds the file or the directory at a place.  A file that cannot be opened is left out. -/
def loadPlace (t : FileTree) (place : List String) : IO FileTree := do
  let path := (← IO.currentDir) / pathOf place
  if t.isDirectory place || (t.content? place).isSome then return t
  if ← path.isDir then return { t with directories := t.directories ++ [place] }
  try
    let content := FileContent.ofBytes (← IO.FS.readBinFile path)
    return { t with files := t.files ++ [(place, content)] }
  catch _ => return t

def loadPath (t : FileTree) (path : String) : IO FileTree :=
  (placesAlong t.current path).foldlM loadPlace t

def loadDirectory (t : FileTree) (path : String) : IO FileTree := do
  let t ← loadPath t path
  match t.locate path with
  | .error _ => return t
  | .ok place =>
    if !t.isDirectory place then return t
    let entries ← ((← IO.currentDir) / pathOf place).readDir
    entries.foldlM (fun t entry => loadPlace t (place ++ [entry.fileName])) t

/-- The files and directories that a command may need. -/
def loadTree (c : Command) : IO FileTree := do
  let here := (Path.ofText (← IO.currentDir).toString).steps
  let t ← c.paths.foldlM loadPath (FileTree.empty here)
  (c.storeDirectories t).foldlM loadDirectory t

def saveTree (old new : FileTree) : IO Unit := do
  for place in new.directories do
    if !old.isDirectory place then IO.FS.createDirAll (pathOf place)
  for (place, content) in new.files do
    -- what a command writes is text
    if let some text := content.text? then
      if (old.content? place).bind FileContent.text? ≠ some text then
        IO.FS.writeFile (pathOf place) text

def now : IO Time.Instant := do
  let nanos := (← Std.Time.Timestamp.now).toNanosecondsSinceUnixEpoch.val
  return (Time.Instant.ofEpoch? nanos.toNat).getD .epoch

def Answer.print (a : Answer) : IO Unit := do
  IO.eprint a.messages
  IO.print a.output

end Metering

open Metering in
/-- Runs the command that the arguments ask for. -/
def main (arguments : List String) : IO UInt32 := do
  match Invocation.parse arguments with
  | .error fault =>
    fault.answer.print
    return fault.answer.status.toUInt32
  | .ok invocation =>
    let files ← loadTree invocation.command
    let instant ← now
    let (answer, changed) := invocation.command.run files ⟨instant, instant, instant⟩
    saveTree files changed
    answer.print
    return answer.status.toUInt32
