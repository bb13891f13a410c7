import MapSheets.Basemap.Tile
import MapSheets.Grating.Basic
import MapSheets.Number.Amount
import MapSheets.Text.Blank
import MapSheets.Text.Case
import MapSheets.Trellis.Spacing

/-
Settings of sheets. A kind of sheet has a name, a scale, a page and the
spacing of its grid; these are checked when the settings are read. The other
settings are kept as they were given, and read where they are used.
-/

namespace MapSheets

/-- The settings of one kind of sheet. -/
structure Sheet (α : Type) where
  name : String
  provider : Json := .str ""
  scale : Amount α := .whole 50000
  dpi : Amount α := .whole 144
  /-- Width and height of the page in millimeters. -/
  width : Amount α := .whole 841
  height : Amount α := .whole 1189
  style : Json := .str ""
  spacing : Amount α := .whole 1000
  labelRows : Json := .arr []
  labelCols : Json := .arr []
  drawGrating : Json := .bool false
  gratingRows : Json := .int 10
  gratingCols : Json := .int 10
  basemap : Json := .bool true
  outputFolder : Json := .str "output"
  description : Json := .str ""

namespace Sheet

-- ================================================================= reading

/-- The names of the settings. -/
def settingNames : List String :=
  ["name", "provider", "scale", "dpi", "width_mm", "height_mm", "style", "grid_spacing",
   "label_rows", "label_cols", "draw_grating", "grating_rows", "grating_cols", "basemap",
   "output_dir", "description"]

/-- Refuses names that no setting has. -/
def refuseUnknown (names : List String) : Outcome Unit :=
  match (names.filter (!settingNames.contains ·)).eraseDups.mergeSort (fun a b => decide (a ≤ b)) with
  | [] => .ok ()
  | unknown => .error (.settingsUnknown unknown)

/-- The name of a sheet: without blanks around it, in small letters. -/
def normalName (name : String) : String := Text.lower (Text.trim name)

variable {α : Type} [Scalar α]

/-- The settings of an object, checked one after the other. -/
def ofFields [OfDouble α] (fields : List (String × Json)) : Outcome (Sheet α) := do
  refuseUnknown (fields.map (·.1))
  let invalid : Failure := .settingsInvalid (Json.obj fields).display
  let setting (name : String) (default : Json) : Json := (fields.lookup name).getD default
  let amount (name : String) (default : Amount α) : Outcome (Amount α) :=
    match fields.lookup name with
    | none => .ok default
    | some v => match Amount.ofJson? v with
      | some a => .ok a
      | none => .error invalid
  let name ← match fields.lookup "name" with
    | none => throw invalid
    | some (.str s) => pure (normalName s)
    | some v => throw (.partAbsent ("'" ++ v.kindName ++ "' object has no attribute 'strip'"))
  if name = "" then throw .sheetNameBlank
  let sheet : Sheet α := { name }
  let scale ← amount "scale" sheet.scale
  if scale.isAtMostZero then throw (.scaleNotPositive name)
  let dpi ← amount "dpi" sheet.dpi
  if dpi.isAtMostZero then throw (.scaleNotPositive name)
  let width ← amount "width_mm" sheet.width
  if width.isAtMostZero then throw (.pageNotPositive name)
  let height ← amount "height_mm" sheet.height
  if height.isAtMostZero then throw (.pageNotPositive name)
  let spacing ← amount "grid_spacing" sheet.spacing
  if spacing.isAtMostZero then throw (.spacingNotPositive name)
  let drawGrating := setting "draw_grating" sheet.drawGrating
  let gratingRows := setting "grating_rows" sheet.gratingRows
  let gratingCols := setting "grating_cols" sheet.gratingCols
  if drawGrating.isTruthy then
    for count in [gratingRows, gratingCols] do
      match (Amount.ofJson? count : Option (Amount α)) with
      | none => throw invalid
      | some a => if !a.isWithin Grating.fewest Grating.most then throw (.gratingNotDrawable name)
  return { sheet with
    scale, dpi, width, height, spacing, drawGrating, gratingRows, gratingCols
    provider := setting "provider" sheet.provider
    style := setting "style" sheet.style
    labelRows := setting "label_rows" sheet.labelRows
    labelCols := setting "label_cols" sheet.labelCols
    basemap := setting "basemap" sheet.basemap
    outputFolder := setting "output_dir" sheet.outputFolder
    description := setting "description" sheet.description }

-- ================================================================ measures

/-- The millimeters in an inch. -/
def millimetersPerInch : α := Scalar.ratio 254 10

/-- Millimeters in whole pixels at a resolution. -/
def pixelsOf (millimeters dpi : α) : Except Fault Int :=
  Scalar.round? (millimeters / millimetersPerInch * dpi)

/-- The spacing of the grid in whole meters. -/
def gridSpacing (s : Sheet α) : Except Fault Spacing := do
  return ⟨← s.spacing.truncate?⟩

/-- The meters on the ground in a pixel of the page. -/
def groundPixel (s : Sheet α) : Except Fault α := do
  let scale ← s.scale.value?
  let dpi ← s.dpi.value?
  Scalar.quotient? (scale * Mercator.metersPerInch) dpi

/-- A page length in pixels, at a resolution or at that of the sheet, which
also stands for a resolution of nothing. -/
def lengthInPixels (s : Sheet α) (length : Amount α) (dpi : Option (Amount α)) :
    Except Fault Int := do
  let length ← length.value?
  let dpi ← ((dpi.filter (!·.isNothing)).getD s.dpi).value?
  pixelsOf length dpi

/-- The width of the page in pixels. -/
def widthInPixels (s : Sheet α) (dpi : Option (Amount α)) : Except Fault Int :=
  s.lengthInPixels s.width dpi

/-- The height of the page in pixels. -/
def heightInPixels (s : Sheet α) (dpi : Option (Amount α)) : Except Fault Int :=
  s.lengthInPixels s.height dpi

end Sheet

end MapSheets
