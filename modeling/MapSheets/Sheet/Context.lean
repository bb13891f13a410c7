import MapSheets.Cell.Basic
import MapSheets.Geodesy.Survey
import MapSheets.Sheet.Settings

/-
What is printed on a sheet about its cell, and the name of the sheet's file.
-/

namespace MapSheets

/-- The values printed on a sheet for a cell. -/
structure SheetContext (α : Type) where
  mdgid : String
  referenceNumber : String
  sheetNumber : String
  series : String
  nrn : String
  country : String
  city : String
  zone : String
  hemisphere : String
  northEastDms : LatLng String
  southWestDms : LatLng String
  /-- The meters in a second of latitude and of longitude. -/
  seconds : LatLng α
  zoom : α
  ground : α
  scale : α
  dpi : Amount α
  spacing : Amount α
  militaryReference : String
  publishedAt : String
  editor : String
  editedAt : String

namespace SheetContext

/-- The zone printed for a cell whose zone has no number. -/
def standardZone : String := "01"

variable {α : Type} [Scalar α] [Elementary α] [NumberText α] [Survey α]

/-- The values printed for a cell. The scale is computed back from the zoom
that the sheet is drawn at. -/
def ofCell (c : Cell α) (s : Sheet α) : Outcome (SheetContext α) := do
  let corner ← c.corner .southWest
  let scale ← (s.scale.value? : Outcome α)
  let dpi ← (s.dpi.value? : Outcome α)
  let zoom ← c.zoomForScale scale dpi
  let ground ← (Mercator.groundOfZoom Mercator.circumference zoom corner.lat : Outcome α)
  let box ← c.hull
  let northEastDms ← c.printedCorner .northEast
  let southWestDms ← c.printedCorner .southWest
  let seconds ← c.arcSeconds
  let militaryReference ←
    Survey.militaryReference ((box.minY + box.maxY) / 2) ((box.minX + box.maxX) / 2) 0
  return {
    mdgid := c.mdgid.text
    referenceNumber := c.referenceNumber
    sheetNumber := c.sheetNumber
    series := c.series
    nrn := c.nrn
    country := c.country
    city := c.city
    zone := c.zone.label?.getD standardZone
    hemisphere := c.hemisphere.letter
    northEastDms, southWestDms, seconds, zoom, ground
    scale := Mercator.scaleOfGround dpi ground
    dpi := s.dpi
    spacing := s.spacing
    militaryReference
    publishedAt := (c.publishedAt.map (·.dateText)).getD ""
    editor := c.editor
    editedAt := (c.editDate.map (·.dateText)).getD "" }

end SheetContext

namespace Sheet

/-- Whether a character may stand in the name of a file. -/
def isNameChar (c : Char) : Bool :=
  c.isAlphanum || c == '_' || c == '.' || c == '-'

/-- A text as the name of a file: every run of other characters becomes one
low line. -/
def fileName : List Char → List Char
  | [] => []
  | c :: rest =>
    if isNameChar c then c :: fileName rest
    else match rest with
      | [] => ['_']
      | d :: _ => if isNameChar d then '_' :: fileName rest else fileName rest

/-- The name of a cell's file without what follows the point. A cell may
carry a name of its own. -/
def fileStem {α β : Type} (s : Sheet α) (c : Cell β) : String :=
  let own := (c.metadata.lookup "filename").getD ""
  let name := if own = "" then c.referenceNumber else own
  String.ofList (fileName (s.name ++ "_" ++ name).toList)

end Sheet

end MapSheets
