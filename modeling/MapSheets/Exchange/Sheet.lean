import MapSheets.Exchange.Number
import MapSheets.Sheet.Atlas
import MapSheets.Sheet.Context

/-
Sheet settings, atlases and printed values in exchange.
-/

namespace MapSheets.Exchange

/-- An amount as it was given. -/
def amount : Amount Float → Json
  | .whole n => n
  | .real x => exact x
  | .flag b => b

/-- Two lengths in pixels, at a resolution. -/
def pageInPixels (s : Sheet Float) (dpi : Option (Amount Float)) : Outcome Json := do
  let width ← (s.widthInPixels dpi : Outcome Int)
  let height ← (s.heightInPixels dpi : Outcome Int)
  return .arr [width, height]

/-- The settings of a sheet, as given, and what is measured by them. -/
def sheetFields (s : Sheet Float) : Outcome (List (String × Json)) := do
  let spacing ← (s.gridSpacing : Outcome Spacing)
  let ground ← (s.groundPixel : Outcome Float)
  return [("name", s.name), ("provider", exactly s.provider), ("scale", amount s.scale),
    ("dpi", amount s.dpi), ("width_mm", amount s.width), ("height_mm", amount s.height),
    ("style", exactly s.style), ("grid_spacing", amount s.spacing),
    ("label_rows", exactly s.labelRows), ("label_cols", exactly s.labelCols),
    ("draw_grating", exactly s.drawGrating), ("grating_rows", exactly s.gratingRows),
    ("grating_cols", exactly s.gratingCols), ("basemap", exactly s.basemap),
    ("output_dir", exactly s.outputFolder), ("description", exactly s.description),
    ("grid", spacing.size), ("ground_pixel", exact ground), ("points", ← pageInPixels s none)]

/-- An atlas. -/
def atlas (a : Atlas) : Outcome Json := do
  let sheets ← a.sheets.mapM fun (name, s) => do return (name, Json.obj (← sheetFields s))
  return .obj [("providers", a.providers.map exactly), ("tile_url", exactly a.tileAddress),
    ("sheets", .obj sheets)]

/-- The values printed for a cell. -/
def context (c : SheetContext Float) : Json :=
  .obj [("mdgid", c.mdgid), ("reference_number", c.referenceNumber),
    ("sheet_number", c.sheetNumber), ("series", c.series), ("nrn", c.nrn),
    ("country", c.country), ("city", c.city), ("zone", c.zone), ("hemi", c.hemisphere),
    ("ne_lat_dms", c.northEastDms.lat), ("ne_lng_dms", c.northEastDms.lng),
    ("sw_lat_dms", c.southWestDms.lat), ("sw_lng_dms", c.southWestDms.lng),
    ("lat_len", significant c.seconds.lat), ("lng_len", significant c.seconds.lng),
    ("zoom", significant c.zoom), ("ground", significant c.ground),
    ("scale", significant c.scale), ("dpi", amount c.dpi), ("grid_spacing", amount c.spacing),
    ("mgrs", c.militaryReference), ("published_at", c.publishedAt), ("edited_by", c.editor),
    ("edited_at", c.editedAt)]

end MapSheets.Exchange
