import MapSheets.Files
import MapSheets.Geodesy.MilitaryGrid
import MapSheets.Source.FeatureFile
import MapSheets.Source.Provider
import MapSheets.Source.Registry

/-
The types of providers that every registry of the program begins with:
tables read from a file of features, and the parts of the cells of another
provider.
-/

namespace MapSheets

namespace Provider

/-- The type of tables read from files. -/
def fileType : String := "geojson"

/-- The type of parts of cells. -/
def partsType : String := "grid5k"

/-- A whole number out of a configuration; `none` if the value writes none. -/
def wholeOf : Json → Outcome (Option Int)
  | .int n => .ok (some n)
  | .bool b => .ok (some (if b then 1 else 0))
  | .float x =>
    match (Scalar.truncate? x : Except Fault Int) with
    | .ok n => .ok (some n)
    | .error .notANumber => .ok none
    | .error f => .error (.fault f)
  | .str s => .ok (Reading.int? s)
  | v => .error (.wrongOperand ("int() argument must be a string, a bytes-like object or a real number, not '"
      ++ v.kindName ++ "'"))

/-- The cell size of a configuration. -/
def configuredSize (config : ProviderConfig) : Outcome CellSize := do
  let value := (config.lookup "scale").getD (.int CellSize.fiftyThousand.denominator)
  let refused : Failure := .scaleUnsupported ((config.lookup "scale").getD .null).display
  match ← wholeOf value with
  | none => throw refused
  | some n => match CellSize.published? n with
    | .ok size => return size
    | .error _ => throw refused

/-- The table of a file. -/
def readTable (files : Files) (path : String) (size : CellSize) : Printing (Provider Float) := do
  let path := FilePath.normal path
  let opening := Work.note ("  Loading grid cells from " ++ FilePath.lastName path ++ "...")
  let unreadable : Failure := .foreign "DataSourceError" ("could not read " ++ path)
  match ← files.find path with
  | .file text =>
    opening
    match FeatureFile.parse? text with
    | none => Work.fail unreadable
    | some file =>
      file.check
      Work.note ("  Loaded " ++ toString file.features.length ++ " cells")
      return table (← CellTable.ofFeatures file.srid file.features size.denominator)
  | .folder =>
    opening
    Work.fail unreadable
  | _ => Work.fail (.fileMissing path)

/-- Builds a table from the configured file. -/
def buildTable (files : Files) : Builder (Provider Float) := fun config _ => do
  let file := (config.lookup "file").getD .null
  if !file.isTruthy then Work.fail .fileUnnamed
  let size ← configuredSize config
  match file with
  | .str path => readTable files path size
  | v => Work.fail (.wrongOperand ("expected str, bytes or os.PathLike object, not " ++ v.kindName))

/-- The mode of a configuration. -/
def configuredMode (config : ProviderConfig) : Outcome PartMode :=
  match config.lookup "part_mode" with
  | none => .ok .eastAligned
  | some v =>
    match (match v with
      | .str name => PartMode.ofName? name
      | _ => none) with
    | some mode => .ok mode
    | none => .error (.partModeUnknown v.display)

/-- Builds the parts of a provider that was named before. -/
def buildParts {α : Type} : Builder (Provider α) := fun config named => do
  let name := Registry.fieldText config "provider"
  if name = "" then Work.fail .baseNameBlank
  let base ← named name
  let mode ← configuredMode config
  let provider ← ofParts mode base
  return provider

end Provider

/-- The registry that a program begins with. -/
def Registry.builtin {κ : Type} (files : Files) : Registry (Provider Float) κ :=
  { types := [(Provider.fileType, Provider.buildTable files), (Provider.partsType, Provider.buildParts)] }

end MapSheets
