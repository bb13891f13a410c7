import MapSheets.Basemap.Download
import MapSheets.Conversion
import MapSheets.Files
import MapSheets.Job.Event
import MapSheets.Sheet.Composition
import MapSheets.Source.Provider

/-
The production of a sheet, as a job. A job is requested and started, and goes
from stage to stage: the cell is looked up, the trellis built, the base map
fetched, the drawing composed and saved, and exported where that is wanted.
Every stage is told before it begins. The first stage that fails ends the
job, and is told with its cause; otherwise the job is completed.
-/

namespace MapSheets

/-- What there is to produce sheets with, and what is wanted besides the
drawing. -/
structure Workshop (α : Type) where
  /-- The files that are there already. -/
  files : Files := ⟨[]⟩
  provider : Option (Provider α) := none
  /-- Makes a base map, which is told by the address it is embedded under. -/
  drawMap : Option (MapRequest α → Work DownloadNote String) := none
  /-- Converts a drawing, and tells whether there is an output. -/
  convert : Conversion α → Work (ConversionNote α) Bool
  wantsPdf : Bool := false
  wantsPng : Bool := false

/-- The files of a sheet. -/
structure SheetFiles where
  svg : String
  pdf : Option String := none
  png : Option String := none

/-- The note of a job. -/
inductive JobNote (α : Type) where
  | event (job : String) (e : Event)
  | mapAsked (r : MapRequest α)
  | download (n : DownloadNote)
  | saved (path : String) (drawing : Element α)
  | exportAsked (c : Conversion α)
  | conversion (n : ConversionNote α)

namespace JobNote

variable {α : Type}

/-- The event that a note tells, with its job. -/
def event? : JobNote α → Option (String × Event)
  | event job e => some (job, e)
  | _ => none

/-- What is printed of a note where events are told elsewhere. -/
def printed : JobNote α → List String
  | download (.line s) => [s]
  | saved path _ => ["  Saved SVG: " ++ path]
  | conversion (.line s) => [s]
  | _ => []

/-- What is printed of a note where events are printed as well. -/
def printedWithEvents : JobNote α → List String
  | event job e => [e.line job]
  | n => n.printed

end JobNote

namespace Sheet

variable {α : Type}

-- ================================================================== stages

/-- A stage of a job: told before it begins, and told again with the cause
if it fails. -/
def stage {β : Type} (job name : String) (w : Work (JobNote α) β) : Work (JobNote α) β :=
  let told : JobNote α := .event job (.processing (.str name))
  match w.outcome with
  | .ok b => ⟨told :: w.notes, .ok b⟩
  | .error f => ⟨told :: w.notes ++ [.event job (Event.ofFailure name f)], .error f⟩

/-- The output folder, which must be a text. -/
def folderOf : Json → Outcome String
  | .str folder => .ok folder
  | v => .error (.wrongOperand
      ("expected str, bytes or os.PathLike object, not " ++ v.kindName))

/-- The path of a sheet's file in the output folder. -/
def pathOf (folder stem ending : String) : String := FilePath.inFolder folder (stem ++ ending)

/-- A conversion as a stage: no output is a failure. -/
def exportStage (w : Workshop α) (job : String) (c : Conversion α) : Work (JobNote α) String :=
  stage job ("exporting " ++ c.format.name) do
    Work.note (.exportAsked c)
    if !(← (w.convert c).relabel .conversion) then Work.fail (.exportFailed c.target)
    return c.target

/-- A stage that is only there on a condition. -/
def onlyIf {β : Type} (condition : Bool) (w : Work (JobNote α) β) : Work (JobNote α) (Option β) :=
  if condition then do return some (← w) else return none

variable [Scalar α] [NumberText α] [Elementary α] [Survey α] [NumberReading α] [Exact α]

/-- The base map that a sheet needs: as large as the frame, around its middle. -/
def mapRequest (s : Sheet α) (c : Cell α) (t : Trellis α) : Outcome (MapRequest α) := do
  let ground ← (s.groundPixel : Outcome α)
  let width ← (Scalar.quotient? t.pageWidth ground : Outcome α)
  let height ← (Scalar.quotient? t.pageHeight ground : Outcome α)
  let scale ← (s.scale.value? : Outcome α)
  let dpi ← (s.dpi.value? : Outcome α)
  let zoom ← c.zoomForScale scale dpi
  let box ← c.hull
  MapRequest.ofSize ⟨(box.minY + box.maxY) / 2, (box.minX + box.maxX) / 2⟩ zoom width height s.style

/-- Fetches the base map of a sheet. -/
def fetchMap (s : Sheet α) (c : Cell α) (t : Trellis α)
    (draw : MapRequest α → Work DownloadNote String) : Work (JobNote α) String := do
  let request ← s.mapRequest c t
  Work.note (.mapAsked request)
  (draw request).relabel .download

/-- The stage of the base map, where the sheet shows one and one can be made. -/
def mapStage (w : Workshop α) (s : Sheet α) (job : String) (c : Cell α) (t : Trellis α) :
    Work (JobNote α) (Option String) :=
  match w.drawMap with
  | some draw => onlyIf s.basemap.isTruthy (stage job "fetching basemap" (s.fetchMap c t draw))
  | none => return none

/-- Composes the drawing of a sheet and saves it. -/
def save (w : Workshop α) (s : Sheet α) (c : Cell α) (t : Trellis α) (basemap : Option String)
    (folder path : String) : Work (JobNote α) Unit := do
  let made ← w.files.makeFolder (FilePath.normal folder)
  let drawing ← s.compose c t basemap
  w.files.refuseFile made path
  Work.note (.saved path drawing)

-- ==================================================================== jobs

/-- The stages of a job whose cell is known. -/
def produceCell (w : Workshop α) (s : Sheet α) (job : String) (c : Cell α) :
    Work (JobNote α) SheetFiles := do
  let t ← stage job "building trellis" (.ofOutcome (s.trellisOf c))
  let basemap ← mapStage w s job c t
  let folder ← folderOf s.outputFolder
  let stem := s.fileStem c
  let svg := pathOf folder stem ".svg"
  stage job "composing svg" (save w s c t basemap folder svg)
  let pdf ← onlyIf w.wantsPdf (exportStage w job (.toPdf svg (pathOf folder stem ".pdf")))
  let png ← onlyIf w.wantsPng (exportStage w job (.toPng svg (pathOf folder stem ".png") s.dpi))
  Work.note (.event job .completed)
  return { svg, pdf, png }

/-- A job from its request on, with the way to its cell. -/
def runJob (w : Workshop α) (s : Sheet α) (job : String) (find : Work (JobNote α) (Cell α)) :
    Work (JobNote α) SheetFiles := do
  Work.note (.event job .requested)
  Work.note (.event job .started)
  produceCell w s job (← find)

/-- The name of the job of a sheet and what it is asked for. -/
def jobName (s : Sheet α) (target : String) : String := s.name ++ "@" ++ target

/-- The stage in which the provider is asked for a cell. -/
def lookUp (w : Workshop α) (s : Sheet α) (job : String) (ask : Provider α → Outcome (Cell α)) :
    Work (JobNote α) (Cell α) :=
  stage job "cell lookup" <| .ofOutcome <| match w.provider with
    | some p => ask p
    | none => .error (.providerMissing s.name)

/-- Produces the sheet of a cell. -/
def produce (w : Workshop α) (s : Sheet α) (c : Cell α) : Work (JobNote α) SheetFiles :=
  runJob w s (s.jobName c.mdgid.text) (pure c)

/-- Produces the sheet of the cell of an identifier. -/
def produceNamed (w : Workshop α) (s : Sheet α) (m : Mdgid) : Work (JobNote α) SheetFiles :=
  let job := s.jobName m.text
  runJob w s job (lookUp w s job (·.cellNamed m))

/-- Produces the sheet of the cell at a point of a reference system. -/
def produceAt (w : Workshop α) (s : Sheet α) (p : LatLng α) (srid : Int) :
    Work (JobNote α) SheetFiles :=
  let job := s.jobName (NumberText.shortest p.lat ++ "," ++ NumberText.shortest p.lng)
  runJob w s job (lookUp w s job (·.cellAt p srid))

end Sheet

end MapSheets
