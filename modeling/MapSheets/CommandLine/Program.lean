import MapSheets.CommandLine.Request
import MapSheets.Sheet.Production
import MapSheets.Source.Kinds

/-
The program behind the command line. A request is carried out in surroundings
that are given as a value: the files there are, how deeply a configuration may
be nested, what the tile server replies, how images are brought to a size and
encoded, and the converters. What comes of it is notes and an exit code. Failures of
the program's own are reported on a line; others leave it. The registry is
cleaned up in every case.
-/

namespace MapSheets.CommandLine

/-- What a run finds around it. -/
structure Surroundings where
  files : Files
  /-- How deeply lists and objects may be nested in a configuration. -/
  deepest : Nat
  reply : String → Reply
  /-- An image brought to a width and a height. -/
  resize : Image → Nat → Nat → Image
  /-- The PNG form of an image in base 64. -/
  encode : Image → String
  converters : Converters Float

/-- The note of a run. -/
inductive RunNote where
  | line (text : String)
  | job (n : JobNote Float)
  /-- The registry is cleaned up; these types came with a cleanup. -/
  | cleanedUp (types : List String)

/-- What is printed of a note. -/
def RunNote.printed : RunNote → List String
  | line s => [s]
  | job n => n.printedWithEvents
  | cleanedUp _ => []

/-- The note of the job, if it is one. -/
def RunNote.job? : RunNote → Option (JobNote Float)
  | job n => some n
  | _ => none

/-- How a request was carried out. -/
inductive Ending where
  | noConfig
  | listed
  | produced (files : SheetFiles)

/-- The exit code. -/
def Ending.code : Ending → Nat
  | noConfig => 1
  | listed | produced _ => 0

/-- The exit code of a failure that is reported. -/
def failureCode : Nat := 1

/-- Whether a failure is one of the program's own, and reported. -/
def isReported (f : Failure) : Bool :=
  match f.family with
  | .grid | .notFound | .blankBase | .partNumber | .cellSize | .typeTaken | .typeUnknown
  | .providerUnknown | .sheet | .projection | .basemap | .conversion => true
  | _ => false

-- ================================================================= listing

/-- Prints lines. -/
def say (lines : List String) : Work RunNote Unit := ⟨lines.map .line, .ok ()⟩

/-- The line of a provider's configuration. -/
def providerLine : Json → Outcome String
  | .obj fields =>
    let shown (name : String) : String := ((fields.lookup name).getD .null).plain
    .ok ("  " ++ shown "name" ++ ": " ++ shown "type")
  | v => .error (.partAbsent ("'" ++ v.kindName ++ "' object has no attribute 'get'"))

/-- The line of a sheet's settings. -/
def sheetLine (s : Sheet Float) : String :=
  "  " ++ s.name ++ ": 1:" ++ s.scale.text ++ " @ " ++ s.dpi.text ++ "dpi, provider "
    ++ s.provider.plain

/-- Prints what an atlas holds. -/
def listAtlas (a : Atlas) : Work RunNote Unit := do
  let sheets := a.sheets.mergeSort fun (m, _) (n, _) => decide (m ≤ n)
  say ("Sheets:" :: sheets.map fun (_, s) => sheetLine s)
  say ["Providers:"]
  a.providers.forM fun p => do say [← providerLine p]

-- =============================================================== producing

/-- The line above and below a heading. -/
def rule : String := String.ofList (List.replicate 60 '=')

/-- The lines that tell which sheet is produced. -/
def heading (s : Sheet Float) : List String :=
  [rule, "Atlas Map Sheet: " ++ s.name, rule,
   "Scale: 1:" ++ s.scale.text ++ " @ " ++ s.dpi.text ++ "dpi",
   "Page: " ++ s.width.text ++ " x " ++ s.height.text ++ " mm",
   "Grid: " ++ s.spacing.text ++ "m",
   "\nLoading providers..."]

/-- The lines that tell what was produced. -/
def summary : Ending → List String
  | .produced files =>
    ["\n" ++ rule, "Done!", "  SVG: " ++ files.svg]
      ++ (files.pdf.map ("  PDF: " ++ ·)).toList
      ++ (files.png.map ("  PNG: " ++ ·)).toList
      ++ [rule]
  | _ => []

/-- The provider of a sheet, whose name is as it was given. -/
def providerOf {κ : Type} (r : Registry (Provider Float) κ) : Json → Outcome (Provider Float)
  | .str name => r.named name
  | .arr _ => .error (.wrongOperand "unhashable type: 'list'")
  | .obj _ => .error (.wrongOperand "unhashable type: 'dict'")
  | v => .error (.providerUnknown v.plain)

/-- A base map from a tile server, by the address it is embedded under. -/
def drawMap (place : Surroundings) (template : Json) (r : MapRequest Float) :
    Work DownloadNote String := do
  let server : TileServer := ⟨template, place.reply, place.resize⟩
  return embeddedPng (place.encode (← server.download r).image)

/-- The workshop of a request. -/
def workshop (place : Surroundings) (r : Request Float) (a : Atlas) (s : Sheet Float)
    (provider : Provider Float) : Workshop Float where
  files := place.files
  provider := some provider
  drawMap :=
    if s.basemap.isTruthy && !r.withoutBasemap then some (drawMap place a.tileAddress) else none
  convert := place.converters.convert
  wantsPdf := r.pdf
  wantsPng := r.png

/-- A sheet with the output folder of a request, where that has one. -/
def Request.placed (r : Request Float) (s : Sheet Float) : Sheet Float :=
  match r.output with
  | none => s
  | some folder => { s with outputFolder := .str (FilePath.normal folder) }

/-- Produces the sheet of a target. -/
def produce (place : Surroundings) (r : Request Float) (a : Atlas) (sheet : String)
    (target : Target Float) : Work RunNote SheetFiles := do
  let s := r.placed (← a.sheet sheet)
  say (heading s)
  let builtin : Registry (Provider Float) String := Registry.builtin place.files
  let (registry, loading) := builtin.load a.providers
  let _ ← loading.relabel RunNote.line
  let provider ← providerOf registry s.provider
  let shop := workshop place r a s provider
  match target with
  | .named id => do
    let m ← Mdgid.parse id
    (s.produceNamed shop m).relabel .job
  | .point p srid => (s.produceAt shop p srid).relabel .job

-- ================================================================= running

/-- Carries out a request, up to the cleanup. -/
def carryOut (place : Surroundings) (r : Request Float) : Work RunNote Ending := do
  match ← (Atlas.load place.deepest place.files r.config).relabel RunNote.line with
  | none =>
    say ["No config found at " ++ FilePath.normal r.config]
    return .noConfig
  | some a =>
    match r.task with
    | .list =>
      listAtlas a
      return .listed
    | .produce sheet target => return .produced (← produce place r a sheet target)

/-- The line that reports a failure. -/
def errorLine (f : Failure) : String := "\nERROR: " ++ f.message

/-- Carries out a request, reports a failure of the program's own, and cleans
up. -/
def run (place : Surroundings) (r : Request Float) : Work RunNote Nat :=
  let w := carryOut place r
  let registry : Registry (Provider Float) String := Registry.builtin place.files
  let cleanup : RunNote := .cleanedUp registry.cleanup.2
  match w.outcome with
  | .ok ending => ⟨w.notes ++ cleanup :: (summary ending).map .line, .ok ending.code⟩
  | .error f =>
    if isReported f then ⟨w.notes ++ [.line (errorLine f), cleanup], .ok failureCode⟩
    else ⟨w.notes ++ [cleanup], .error f⟩

/-- The files that the providers of a configuration are read from. -/
def providerFiles (deepest : Nat) (files : Files) (config : String) : List String :=
  match (Atlas.load deepest files config).outcome with
  | .ok (some a) => a.providers.filterMap fun
    | .obj fields => match fields.lookup "file" with
      | some (.str path) => some path
      | _ => none
    | _ => none
  | _ => []

end MapSheets.CommandLine
