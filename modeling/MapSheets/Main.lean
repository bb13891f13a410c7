import MapSheets.CommandLine.Help
import MapSheets.CommandLine.Program
import MapSheets.Drawing.Markup

/-
The command line. It reads the files that a run needs, lets the run be
carried out, and then prints its lines and writes its drawings in the order
of its notes. There is no network here and no converter.
-/

open MapSheets MapSheets.CommandLine

/-- The text of a file with its path, if it can be read. -/
def readIfThere (path : String) : IO (List (String × String)) := do
  try return [(path, ← IO.FS.readFile path)]
  catch _ => return []

/-- How deeply lists and objects may be nested in a configuration. -/
def deepest : Nat := 990

/-- The files that a request needs. -/
def readFor (r : Request Float) : IO Files := do
  let config ← readIfThere r.config
  let paths := providerFiles deepest ⟨config⟩ r.config
  return ⟨config ++ (← paths.mapM readIfThere).flatten⟩

/-- Surroundings without a network and without converters. -/
def surroundingsOf (files : Files) : Surroundings where
  files := files
  deepest := deepest
  reply _ := .unreachable "offline"
  resize i _ _ := i
  encode _ := ""
  converters := { run := fun _ => .notFound, library := none }

/-- Writes a drawing, and makes the folder for it. -/
def writeDrawing (path : String) (drawing : Element Float) : IO Unit := do
  IO.FS.createDirAll (FilePath.folder path)
  IO.FS.writeFile path drawing.document

/-- Prints what is said in a note, and writes what was saved. -/
def carry (n : RunNote) : IO Unit := do
  if let .job (.saved path drawing) := n then writeDrawing path drawing
  n.printed.forM fun line => IO.println line

/-- Runs the program, and tells its exit code. -/
def main (words : List String) : IO UInt32 := do
  match Request.ofWords words with
  | .error stop =>
    match stop.message with
    | none =>
      help.forM fun line => IO.println line
      return 0
    | some text =>
      IO.eprintln ("mapsheets: error: " ++ text)
      return 2
  | .ok r =>
    let w := run (surroundingsOf (← readFor r)) r
    w.notes.forM carry
    match w.outcome with
    | .ok code => return UInt32.ofNat code
    | .error f =>
      IO.eprintln (f.name ++ ": " ++ f.message)
      return 1
