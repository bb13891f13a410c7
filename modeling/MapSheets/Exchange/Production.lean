import MapSheets.Drawing.Markup
import MapSheets.Exchange.Sheet
import MapSheets.Sheet.Production

/-
Jobs in exchange: their events, the base maps and conversions that they
asked for, and what is in the drawings that they saved.
-/

namespace MapSheets.Exchange

-- ================================================================= drawings

/-- The path of a saved drawing from where the work began. -/
def savedPath (path : String) : String :=
  FilePath.root path ++ "/".intercalate (FilePath.resolved path)

/-- How many lines a drawing has. -/
def lineCount (drawing : Element Float) : Json := (drawing.all.filter (·.tag == "line")).length

/-- A text as it is read back from a file: every end of a line is the same. -/
def readBack : List Char → List Char
  | '\r' :: '\n' :: rest => '\n' :: readBack rest
  | '\r' :: rest => '\n' :: readBack rest
  | c :: rest => c :: readBack rest
  | [] => []

/-- The text of an element that holds nothing but text. -/
def plainText? (e : Element Float) : Option String :=
  match e.tag, e.content, e.children with
  | "text", some s, [] =>
    if s.isEmpty then none else some (String.ofList (readBack (Element.escapeText s).toList))
  | _, _, _ => none

/-- The plain texts of a drawing, escaped as in its file. -/
def plainTexts (drawing : Element Float) : Json := drawing.all.filterMap plainText?

-- ==================================================================== notes

/-- A kind of event. -/
def eventKind : Event → String
  | .requested => "Requested"
  | .started => "Started"
  | .processing _ => "Processing"
  | .failed _ _ => "Failed"
  | .completed => "Completed"

/-- An event. -/
def event (e : Event) : Json := .arr [eventKind e, exactly (.obj e.fields)]

/-- A base map that was asked for. -/
def mapRequest (r : MapRequest Float) : Json :=
  .arr [fixed 9 r.center.lat, fixed 9 r.center.lng, significant r.zoom, r.width, r.height,
    exactly r.style]

/-- A resolution as it was asked for. -/
def resolution : Resolution Float → Json
  | .amount a => amount a
  | .text s => s

/-- A conversion that was asked for. -/
def conversion (c : Conversion Float) : Json :=
  .arr ([Json.str c.format.name, .str c.source, .str c.target] ++ (c.dpi.map resolution).toList)

/-- The events of a job's notes, each with its job. -/
def events (notes : List (JobNote Float)) : Json :=
  (notes.filterMap JobNote.event?).map fun (job, e) => Json.arr [job, event e]

/-- The base maps that a job asked for. -/
def mapRequests (notes : List (JobNote Float)) : Json :=
  notes.filterMap fun
    | .mapAsked r => some (mapRequest r)
    | _ => none

/-- The conversions that a job asked for. -/
def conversions (notes : List (JobNote Float)) : Json :=
  notes.filterMap fun
    | .exportAsked c => some (conversion c)
    | _ => none

/-- The drawings that a job saved, in a form. -/
def savedDrawings (form : Element Float → Json) (notes : List (JobNote Float)) :
    List (String × Json) :=
  notes.filterMap fun
    | .saved path drawing => some (savedPath path, form drawing)
    | _ => none

/-- The files of a sheet. -/
def sheetFiles (f : SheetFiles) : Json :=
  .obj [("svg", f.svg), ("pdf", Json.ofOption .str f.pdf), ("png", Json.ofOption .str f.png)]

end MapSheets.Exchange
