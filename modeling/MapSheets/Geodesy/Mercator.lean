import MapSheets.Geodesy.Survey

/-
Map resolution. Paper scale, ground resolution and zoom level are three ways
to say how large a map is drawn, and each is computed from the others. The
web map projects latitude and longitude to pixels whose origin is the
north-west corner of the world; its whole width is a power of two of tiles.
-/

namespace MapSheets.Mercator

variable {α : Type} [Scalar α] [Elementary α]

/-- The pixels in the side of a tile. -/
def tileSide : α := 256

/-- The meters in an inch. -/
def metersPerInch : α := Scalar.ratio 254 10000

/-- The latitude at which the web map ends. -/
def greatestLat : α := Scalar.ratio 8505112878 100000000

/-- The length of the equator of the web map in meters. -/
def circumference : α := 2 * Elementary.pi * 6378137

-- ============================================================= resolutions

/-- The ground meters in a pixel of a map printed at a scale. -/
def groundOfScale (scale dpi : α) : Except Fault α :=
  Scalar.quotient? (scale * metersPerInch) dpi

/-- The length of the parallel at a latitude. -/
def parallelLength (circumference lat : α) : Except Fault α := do
  let c ← Elementary.cosine? (lat * (Elementary.pi / 180))
  return c * circumference

/-- The zoom at which a width of ground spans the map at a scale. -/
def zoomForWidth (scale dpi width : α) : Except Fault α := do
  let ground ← groundOfScale scale dpi
  let pixels ← Scalar.quotient? width ground
  Elementary.logarithm₂? pixels

/-- The zoom that gives a map at a scale, at a latitude. -/
def zoomForScale (circumference scale dpi lat : α) : Except Fault α := do
  let ground ← groundOfScale scale dpi
  let width ← parallelLength circumference lat
  let pixels ← Scalar.quotient? width ground
  Elementary.logarithm₂? (pixels / tileSide)

/-- The ground meters in a pixel at a zoom and a latitude. -/
def groundOfZoom (circumference zoom lat : α) : Except Fault α := do
  let width ← parallelLength circumference lat
  let power ← Elementary.powerOfTwo? zoom
  Scalar.quotient? width (tileSide * power)

/-- The paper scale of a ground resolution. -/
def scaleOfGround (dpi ground : α) : α := ground * dpi / metersPerInch

/-- The zoom that gives a ground resolution at a latitude. -/
def zoomForGround (circumference ground lat : α) : Except Fault α := do
  let width ← parallelLength circumference lat
  let pixels ← Scalar.quotient? width (ground * tileSide)
  Elementary.logarithm₂? pixels

-- ==================================================================== boxes

section
variable [NumberText α] [Survey α]

/-- Width and height in meters of the box between two corners, given by
longitude and latitude, both in the zone of the first one. -/
def boxMeters (southWest northEast : α × α) : Outcome (α × α) := do
  let zone ← Zone.numberAt southWest.2 southWest.1
  let p ← GridPoint.inZone .standard zone southWest.1 southWest.2
  let q ← GridPoint.inZone .standard zone northEast.1 northEast.2
  return (Scalar.magnitude (q.easting - p.easting), Scalar.magnitude (q.northing - p.northing))

/-- Width and height of the box in pixels of a ground resolution. -/
def boxPixels (southWest northEast : α × α) (ground : α) : Outcome (α × α) := do
  let (width, height) ← boxMeters southWest northEast
  let w ← Scalar.quotient? width ground
  let h ← Scalar.quotient? height ground
  return (w, h)

/-- The ground resolution that fits the box into a width in pixels. -/
def groundForWidth (southWest northEast : α × α) (pixels : α) : Outcome α := do
  let (width, _) ← boxPixels southWest northEast 1
  Scalar.quotient? width pixels

/-- The ground resolution that fits the box into a height in pixels. -/
def groundForHeight (southWest northEast : α × α) (pixels : α) : Outcome α := do
  let (_, height) ← boxPixels southWest northEast 1
  Scalar.quotient? height pixels

end

-- =================================================================== pixels

/-- A latitude pushed into the reach of the web map. -/
def clampLat (lat : α) : α :=
  Scalar.greatest (-greatestLat) (Scalar.least greatestLat lat)

/-- The pixel of a latitude and a longitude at a zoom. -/
def pixelOf (lat lng zoom side : α) : Except Fault (α × α) := do
  let lat := clampLat lat
  let power ← Elementary.powerOfTwo? zoom
  let world := side * power
  let x := (lng + 180) / 360 * world
  let t ← Elementary.tangent? (Elementary.radians lat)
  let y := (1 - Elementary.areaHyperbolicSine t / Elementary.pi) / 2 * world
  return (x, y)

/-- Latitude and longitude of a pixel at a zoom. -/
def pointOf (x y zoom side : α) : Except Fault (α × α) := do
  let power ← Elementary.powerOfTwo? zoom
  let world := side * power
  let across ← Scalar.quotient? x world
  let down ← Scalar.quotient? (2 * y) world
  let s ← Elementary.hyperbolicSine? (Elementary.pi * (1 - down))
  return (Elementary.degrees (Elementary.arcTangent s), across * 360 - 180)

end MapSheets.Mercator
