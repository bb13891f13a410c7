import MapSheets.Failure
import MapSheets.Geodesy.Ellipsoid
import MapSheets.Geodesy.Zone

/-
What the library takes from surveying: the projection of a zone, the way
from a reference system to longitude and latitude, and the military grid.
They are the operations of one class, so a sheet can be laid out, and a law
about its layout stated, for whatever values a survey returns.
-/

namespace MapSheets

/-- A field of measure with a survey of the globe. -/
class Survey (α : Type) where
  /-- Easting and northing of a longitude and a latitude in a zone. The
  northing counts from the equator on both sides. -/
  project : Ellipsoid α → (zone : Int) → (lng lat : α) → Outcome (α × α)
  /-- Longitude and latitude of a point in the reference system of a number. -/
  locate : (srid : Int) → (x y : α) → Outcome (α × α)
  /-- The military grid reference of a latitude and a longitude: the zone, the
  square, and easting and northing with a count of digits each. -/
  militaryReference : (lat lng : α) → (digits : Int) → Outcome String

/-- The number of the reference system of longitude and latitude. -/
def geographicSrid : Int := 4326

/-- Longitude and latitude of a point in a reference system. -/
def toGeographic {α : Type} [Survey α] (srid : Int) (x y : α) : Outcome (α × α) :=
  if srid = geographicSrid then .ok (x, y) else Survey.locate srid x y

/-- A point in the grid of a zone. -/
structure GridPoint (α : Type) where
  easting : α
  northing : α
  zone : Int
  hemisphere : Hemisphere

namespace GridPoint

variable {α : Type} [Scalar α]

/-- The northing of the equator for points south of it. -/
def falseNorthing : α := 10000000

/-- The same point with its northing counted from the equator. -/
def countedFromEquator (p : GridPoint α) : GridPoint α :=
  match p.hemisphere with
  | .south => { p with northing := p.northing - falseNorthing, hemisphere := .north }
  | .north => p

variable [NumberText α] [Survey α]

/-- The grid point of a longitude and a latitude in a zone. -/
def inZone (ellipsoid : Ellipsoid α) (zone : Int) (lng lat : α) : Outcome (GridPoint α) := do
  let lngText := NumberText.shortest lng
  let latText := NumberText.shortest lat
  if zone = 0 then throw (.polarPoint lngText latText)
  if ¬(1 ≤ zone ∧ zone ≤ 60) then throw (.zoneRefused zone lngText latText)
  let hemisphere := Hemisphere.ofLat lat
  let (easting, fromEquator) ← Survey.project ellipsoid zone lng lat
  let northing := match hemisphere with
    | .north => fromEquator
    | .south => fromEquator + falseNorthing
  if Scalar.isFinite easting && Scalar.isFinite northing then
    return { easting, northing, zone, hemisphere }
  else throw (.unprojectable lngText latText zone)

/-- The grid point of a longitude and a latitude in its own zone. -/
def ofPoint (ellipsoid : Ellipsoid α) (lng lat : α) : Outcome (GridPoint α) := do
  let zone ← Zone.numberAt lat lng
  inZone ellipsoid zone lng lat

end GridPoint

end MapSheets
