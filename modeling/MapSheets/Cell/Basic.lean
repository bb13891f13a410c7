import MapSheets.Calendar.Stamp
import MapSheets.Cell.Mdgid
import MapSheets.Cell.Size
import MapSheets.Geodesy.Dms
import MapSheets.Geodesy.Ellipsoid
import MapSheets.Geodesy.Mercator
import MapSheets.Geodesy.Zone
import MapSheets.Plane.Bounds

/-
Cells. A cell is one rectangular sheet of a national grid: a box of
latitudes and longitudes under an identifier, with what is printed in its
margin. Zone, printed corners and arc lengths follow from the corners; a
cell may carry them already, and `fill` supplies those it lacks.
-/

namespace MapSheets

/-- A pair of things, one for the latitude and one for the longitude. -/
structure LatLng (α : Type) where
  lat : α
  lng : α
  deriving DecidableEq

/-- The zone of a cell and its side of the equator. -/
structure GridZone where
  zone : Zone
  hemisphere : Hemisphere
  deriving DecidableEq

/-- Zone and side of a point. -/
def GridZone.ofPoint {α : Type} [Scalar α] (p : LatLng α) : Outcome GridZone := do
  let zone ← Zone.ofPoint p.lat p.lng
  return ⟨zone, Hemisphere.ofLat p.lat⟩

/-- Who edited a sheet, and when. -/
structure Edit where
  editor : String := ""
  date : Option Stamp := none
  deriving DecidableEq

/-- The two corners of a cell that its box is told by. -/
inductive CornerName where
  | southWest
  | northEast

/-- The letters of a corner. -/
def CornerName.letters : CornerName → String
  | southWest => "SW"
  | northEast => "NE"

/-- A cell. The corners, and all that follows from them, may be absent. -/
structure Cell (α : Type) where
  mdgid : Mdgid
  southWest : Option (LatLng α) := none
  northEast : Option (LatLng α) := none
  /-- The meters in a second of latitude and of longitude. -/
  seconds : Option (LatLng α) := none
  southWestDms : Option (LatLng String) := none
  northEastDms : Option (LatLng String) := none
  gridZone : Option GridZone := none
  country : String := ""
  city : String := ""
  series : String := ""
  sheet : String := ""
  nrn : String := ""
  publishedAt : Option Stamp := none
  edit : Option Edit := none
  metadata : List (String × String) := []
  deriving DecidableEq

namespace Cell

variable {α : Type}

-- ================================================================= corners

/-- A corner that the cell must have. -/
def corner (c : Cell α) (name : CornerName) : Outcome (LatLng α) :=
  match (match name with
    | .southWest => c.southWest
    | .northEast => c.northEast) with
  | some p => .ok p
  | none => .error (.cornerMissing c.mdgid.text name.letters)

/-- Longitude and latitude of the north-east corner. -/
def northEastCorner (c : Cell α) : Outcome (Point α) := do
  let p ← c.corner .northEast
  return ⟨p.lng, p.lat⟩

/-- Longitude and latitude of the south-west corner. -/
def southWestCorner (c : Cell α) : Outcome (Point α) := do
  let p ← c.corner .southWest
  return ⟨p.lng, p.lat⟩

/-- Longitude and latitude of the north-west corner. -/
def northWestCorner (c : Cell α) : Outcome (Point α) := do
  let west ← c.corner .southWest
  let north ← c.corner .northEast
  return ⟨west.lng, north.lat⟩

/-- Longitude and latitude of the south-east corner. -/
def southEastCorner (c : Cell α) : Outcome (Point α) := do
  let east ← c.corner .northEast
  let south ← c.corner .southWest
  return ⟨east.lng, south.lat⟩

section
variable [Scalar α]

/-- The box of longitudes and latitudes, with its sides in order. -/
def hull (c : Cell α) : Outcome (Bounds α) := do
  let p ← c.corner .northEast
  let q ← c.corner .southWest
  return ⟨Scalar.least p.lng q.lng, Scalar.greatest p.lng q.lng,
    Scalar.least p.lat q.lat, Scalar.greatest p.lat q.lat⟩

end

-- ========================================================== what follows

section
variable [Scalar α] [NumberText α]

/-- The printed corner with a count of places of the seconds. -/
def dmsOf (places : Nat) (p : LatLng α) : Outcome (LatLng String) := do
  let lat ← Dms.ofLat p.lat
  let lng ← Dms.ofLng p.lng
  return ⟨lat.text places, lng.text places⟩

/-- The places of the seconds in a corner that is kept with the cell. -/
def keptPlaces : Nat := 6

/-- The places of the seconds in a corner that is computed for print. -/
def printedPlaces : Nat := 1

variable [Elementary α]

/-- The meters in a second of latitude and of longitude at a corner. -/
def secondsAt (p : LatLng α) : Outcome (LatLng α) := do
  let (lat, lng) ← Arc.seconds p.lat
  return ⟨lat, lng⟩

/-- A field after filling: one that is not there is derived from a corner,
where the cell has the corner. -/
def supplied {β γ : Type} (derive : γ → Outcome β) (corner : Option γ) :
    Option β → Outcome (Option β)
  | some b => .ok (some b)
  | none => corner.mapM derive

/-- Supplies the zone, from the north-east corner. -/
def fillZone (c : Cell α) : Outcome (Cell α) := do
  return { c with gridZone := ← supplied GridZone.ofPoint c.northEast c.gridZone }

/-- Supplies the printed north-east corner. -/
def fillNorthEastDms (c : Cell α) : Outcome (Cell α) := do
  return { c with northEastDms := ← supplied (dmsOf keptPlaces) c.northEast c.northEastDms }

/-- Supplies the printed south-west corner. -/
def fillSouthWestDms (c : Cell α) : Outcome (Cell α) := do
  return { c with southWestDms := ← supplied (dmsOf keptPlaces) c.southWest c.southWestDms }

/-- Supplies the arc lengths, at the south-west corner. -/
def fillSeconds (c : Cell α) : Outcome (Cell α) := do
  return { c with seconds := ← supplied secondsAt c.southWest c.seconds }

/-- Runs steps one after the other up to the first that fails. What the
earlier ones supplied stays, and the failure stands beside it. -/
def runSteps (steps : List (Cell α → Outcome (Cell α))) (c : Cell α) :
    Cell α × Option Failure :=
  match steps with
  | [] => (c, none)
  | step :: rest =>
    match step c with
    | .ok c => runSteps rest c
    | .error f => (c, some f)

/-- Supplies what follows from the corners and is not there yet. -/
def fill (c : Cell α) : Cell α × Option Failure :=
  c.runSteps [fillZone, fillNorthEastDms, fillSouthWestDms, fillSeconds]

/-- The filled cell, or why it cannot be filled. -/
def filled (c : Cell α) : Outcome (Cell α) :=
  match c.fill with
  | (c, none) => .ok c
  | (_, some f) => .error f

/-- Keeps printed corners that came with a cell, if all four texts are there. -/
def withDms (c : Cell α) (southWest northEast : LatLng String) : Cell α :=
  if [southWest.lat, southWest.lng, northEast.lat, northEast.lng].all (· != "") then
    { c with southWestDms := some southWest, northEastDms := some northEast }
  else c

/-- A cell made from the text of its identifier: the text is read, printed
corners that came along are kept, and what follows from the corners is supplied. -/
def make (bare : Cell α) (id : String) (southWest northEast : LatLng String) :
    Outcome (Cell α) := do
  let mdgid ← Mdgid.parse id
  ({ bare with mdgid }.withDms southWest northEast).filled

-- ============================================================ the web map

/-- The side of the tiles that cells are measured in. -/
def tileSide : α := 512

/-- The pixels of the north-west and the south-east corner at a zoom. -/
def pixelCorners (c : Cell α) (zoom : α) : Outcome (Point α × Point α) := do
  let box ← c.hull
  let (x₁, y₁) ← Mercator.pixelOf box.maxY box.minX zoom tileSide
  let (x₂, y₂) ← Mercator.pixelOf box.minY box.maxX zoom tileSide
  return (⟨x₁, y₁⟩, ⟨x₂, y₂⟩)

/-- Width and height in pixels at a zoom. -/
def pixelSize (c : Cell α) (zoom : α) : Outcome (α × α) := do
  let (p, q) ← c.pixelCorners zoom
  return (Scalar.magnitude (q.x - p.x), Scalar.magnitude (q.y - p.y))

/-- The pixel in the middle of the cell at a zoom. -/
def pixelCenter (c : Cell α) (zoom : α) : Outcome (Point α) := do
  let (p, q) ← c.pixelCorners zoom
  return p.between q

/-- Latitude and longitude of the pixel in the middle at a zoom. -/
def mapCenter (c : Cell α) (zoom : α) : Outcome (LatLng α) := do
  let p ← c.pixelCenter zoom
  let (lat, lng) ← Mercator.pointOf p.x p.y zoom tileSide
  return ⟨lat, lng⟩

/-- The zoom that shows the south edge of the cell at a scale. -/
def zoomForScale (c : Cell α) (scale dpi : α) : Outcome α := do
  let p ← c.corner .southWest
  let zoom ← Mercator.zoomForScale Mercator.circumference scale dpi p.lat
  return zoom

-- ============================================================== the margin

/-- The identifier with a hyphen before the part. -/
def referenceNumber (c : Cell α) : String := Mdgid.joined "-" c.mdgid.id c.mdgid.part

/-- The name of the sheet with a hyphen before the part. -/
def sheetNumber (c : Cell α) : String := Mdgid.joined "-" c.sheet c.mdgid.part

/-- The zone of the cell, as far as it is known. -/
def zone (c : Cell α) : Zone := (c.gridZone.map (·.zone)).getD .unknown

/-- The side of the equator; north where nothing is known. -/
def hemisphere (c : Cell α) : Hemisphere := (c.gridZone.map (·.hemisphere)).getD .north

/-- The arc lengths that the cell carries, otherwise those at its corner. -/
def arcSeconds (c : Cell α) : Outcome (LatLng α) :=
  match c.seconds with
  | some s => .ok s
  | none => do secondsAt (← c.corner .southWest)

/-- A printed corner: as the cell carries it, otherwise computed. -/
def printedCorner (c : Cell α) (name : CornerName) : Outcome (LatLng String) :=
  match (match name with
    | .southWest => c.southWestDms
    | .northEast => c.northEastDms) with
  | some texts => .ok texts
  | none => do dmsOf printedPlaces (← c.corner name)

/-- The name of the last editor. -/
def editor (c : Cell α) : String := (c.edit.map (·.editor)).getD ""

/-- The date of the last edit. -/
def editDate (c : Cell α) : Option Stamp := c.edit.bind (·.date)

end

end Cell

end MapSheets
