import MapSheets.Cell.Parts
import MapSheets.Exchange.Digest
import MapSheets.Exchange.Geodesy

/-
Cells in exchange. A cell that is read is filled, unless it is marked as raw:
then it is taken as it stands.
-/

namespace MapSheets.Exchange

/-- An identifier with its printed form. -/
def mdgid (m : Mdgid) : Json := .obj [("id", m.id), ("part", m.part), ("str", m.text)]

/-- Reads a latitude and a longitude. -/
def readLatLng (j : Json) : Outcome (LatLng Float) := do
  let (lat, lng) ← j.pair
  return ⟨lat, lng⟩

/-- Reads two texts, for a latitude and a longitude. -/
def readTexts (j : Json) : LatLng String :=
  match j.list with
  | [lat, lng] => ⟨lat.text, lng.text⟩
  | _ => ⟨"", ""⟩

/-- Reads a stamp in the standard notation with all places. -/
def readStamp (j : Json) : Outcome (Option Stamp) :=
  if j.text.isEmpty then .ok none
  else match (Moment.standard? j.text.toList).filter fun m =>
      m.outOfRange?.isNone
        && [m.dateText, m.dateText.replace "-" ""].any (j.text.startsWith ·) with
    | some m => .ok (some (.moment m))
    | none => .error (.date (.missing .day 0))

/-- Reads a zone and its side of the equator. -/
def readGridZone (j : Json) : Outcome GridZone := do
  let zone ← match j.field "zone" with
    | .int n => Zone.ofNumber n
    | _ => pure .unknown
  return ⟨zone, if j.textAt "hemi" == Hemisphere.south.name then .south else .north⟩

/-- Reads a cell. -/
def readCell (j : Json) : Outcome (Cell Float) := do
  let gridZone ← match j.field "utm" with
    | .null => pure none
    | z => some <$> readGridZone z
  let southWestDms := readTexts (j.field "dms_sw")
  let northEastDms := readTexts (j.field "dms_ne")
  let bare : Cell Float :=
    { mdgid := ⟨j.textAt "mdgid", j.wholeAt "part"⟩
      southWest := ← (j.field "sw").optionM readLatLng
      northEast := ← (j.field "ne").optionM readLatLng
      gridZone
      country := j.textAt "country"
      city := j.textAt "city"
      series := j.textAt "series"
      sheet := j.textAt "sheet"
      nrn := j.textAt "nrn"
      publishedAt := ← readStamp (j.field "published_at")
      edit := ← (j.field "edited").optionM fun e => do
        return { editor := e.textAt "by", date := ← readStamp (e.field "date") }
      metadata := (j.field "metadata").fields.map fun (n, v) => (n, v.text) }
  if j.flagAt "raw" then
    return { bare with
      seconds := ← (j.field "sec_len").optionM readLatLng
      southWestDms := (j.field "dms_sw").option fun _ => southWestDms
      northEastDms := (j.field "dms_ne").option fun _ => northEastDms }
  bare.make bare.mdgid.id southWestDms northEastDms

/-- An entry of the metadata. A digest as a file name is marked. -/
def metadataEntry (name value : String) : String × Json :=
  (name, if name == "filename" && isDigest value then digestMark else value)

/-- A stamp that may be absent. -/
def stamp : Option Stamp → Json := Json.ofOption fun s => s.text

/-- A cell, with its corners in a form. -/
def cell (form : Float → Json) (c : Cell Float) : Json :=
  let corner (form : Float → Json) (p : LatLng Float) : Json := .arr [form p.lat, form p.lng]
  let printed (p : LatLng String) : Json := [p.lat, p.lng]
  .obj [("mdgid", mdgid c.mdgid), ("sw", Json.ofOption (corner form) c.southWest),
    ("ne", Json.ofOption (corner form) c.northEast),
    ("sec_len", Json.ofOption (corner significant) c.seconds),
    ("sw_dms", Json.ofOption printed c.southWestDms),
    ("ne_dms", Json.ofOption printed c.northEastDms),
    ("utm", Json.ofOption (fun (g : GridZone) => [g.zone.text, g.hemisphere.name]) c.gridZone),
    ("text", [c.country, c.city, c.series, c.sheet, c.nrn]),
    ("published_at", stamp c.publishedAt),
    ("edited", Json.ofOption (fun (e : Edit) => .arr [e.editor, stamp e.date]) c.edit),
    ("metadata", .obj (c.metadata.map fun (n, v) => metadataEntry n v))]

/-- The bounds of a part. -/
def partBounds (b : PartBounds Float) : Json := numbers exact [b.north, b.south, b.west, b.east]

end MapSheets.Exchange
