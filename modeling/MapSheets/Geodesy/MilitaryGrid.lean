import MapSheets.Geodesy.Reference
import MapSheets.Geodesy.Survey
import MapSheets.Number.Decimal
import MapSheets.Number.Power

/-
The military grid. Between 80 degrees south and 84 degrees north a reference
names the strip, the band of latitude, a square of a hundred kilometers by
two letters, and the meters inside it; the strips have the widened zones of
the north. Around the poles a stereographic projection takes the place of
the strips, and the references have no zone number. Digits are cut, not
rounded.
-/

namespace MapSheets.MilitaryGrid

/-- The letters that name squares and bands: all but I and O. -/
def letters : List Char := "ABCDEFGHJKLMNPQRSTUVWXYZ".toList

/-- A letter by its place. -/
def letterAt (n : Nat) : Char := (letters[n % 24]?).getD 'A'

/-- The side of a square. -/
def squareSide : Float := 100000.0

/-- A position before it is written: what names the zone, the two letters of
the square, and the meters. -/
structure Position where
  zone : String
  square : List Char
  easting : Float
  northing : Float

/-- The rest of a division by the side of a square. -/
def insideSquare (x : Float) : Float := x - squareSide * Float.floor (x / squareSide)

/-- The meters inside a square, to a count of digits. -/
def cut (digits : Nat) (x : Float) : String :=
  let inside := insideSquare x
  let inside := if inside ≥ 99999.5 then 99999.0 else inside
  let unit := Float.ofNat (tenTo (5 - digits))
  Decimal.padded digits (inside / unit).floor.toUInt64.toNat

/-- A position in print. -/
def Position.text (p : Position) (digits : Nat) : String :=
  let head := p.zone ++ " " ++ String.ofList p.square
  if digits = 0 then head
  else head ++ " " ++ cut digits p.easting ++ " " ++ cut digits p.northing

-- ================================================================= strips

/-- The strip of a point, in radians, the widened ones of the north included.
Longitudes count eastwards from Greenwich, a full turn at most. -/
def stripAt (lat lng : Float) : Nat :=
  let toDegrees := 180.0 / Elementary.pi
  let latDegree := (lat * toDegrees).toInt64.toInt
  let east := if lng < 0.0 then lng + (2.0 * Elementary.pi + 1.0e-10) else lng
  let lngDegree := (east * toDegrees).toInt64.toInt
  let sixths := east * toDegrees / 6.0
  let plain := if east < Elementary.pi then (31.0 + sixths).toUInt64.toNat
    else (sixths - 29.0).toUInt64.toNat
  let plain := if 60 < plain then 1 else plain
  if 55 < latDegree ∧ latDegree < 64 ∧ -1 < lngDegree ∧ lngDegree < 3 then 31
  else if 55 < latDegree ∧ latDegree < 64 ∧ 2 < lngDegree ∧ lngDegree < 12 then 32
  else if 71 < latDegree ∧ -1 < lngDegree ∧ lngDegree < 9 then 31
  else if 71 < latDegree ∧ 8 < lngDegree ∧ lngDegree < 21 then 33
  else if 71 < latDegree ∧ 20 < lngDegree ∧ lngDegree < 33 then 35
  else if 71 < latDegree ∧ 32 < lngDegree ∧ lngDegree < 42 then 37
  else plain

/-- The letters of the bands of latitude, from the south. -/
def bandLetters : List Char := "CDEFGHJKLMNPQRSTUVWX".toList

/-- The band of a latitude in radians: eight degrees each, the last one twelve. -/
def bandAt (lat : Float) : Char :=
  if 72.0 ≤ lat * (180.0 / Elementary.pi) then 'X'
  else
    let bands := (lat + 80.0 * Elementary.pi / 180.0) / (8.0 * Elementary.pi / 180.0) + 1.0e-12
    (bandLetters[bands.toUInt64.toNat]?).getD 'X'

/-- The first letter of the columns of squares in a strip. -/
def firstColumn (strip : Nat) : Nat :=
  match strip % 3 with
  | 1 => 0
  | 2 => 8
  | _ => 16

/-- A position in a strip, from the meters of the universal grid. -/
def inStrip (strip : Nat) (lat easting northing : Float) : Position :=
  let band := bandAt lat
  -- a point on the equator seen from the south counts just below it
  let row := if northing == 1.0e7 then northing - 1.0 else northing
  let shift := if strip % 2 = 0 then 500000.0 else 0.0
  let rowIndex := (row / squareSide).floor + shift / squareSide
  let easting := if band = 'V' ∧ strip = 31 ∧ easting == 500000.0 then easting - 1.0 else easting
  let column := firstColumn strip + ((easting / squareSide).toUInt64.toNat - 1)
  { zone := Decimal.padded 2 strip ++ String.singleton band
    square := [letterAt column, letterAt (rowIndex.toUInt64.toNat % 20)]
    easting, northing }

-- =============================================================== the poles

/-- The latitude of true scale of the polar projection, in degrees. -/
def trueScaleLat : Float := 81.114528

/-- The meters of the pole in both directions. -/
def poleOffset : Float := 2000000.0

/-- The tangent that the polar projection is proportional to. -/
def polarTangent (e phi : Float) : Float :=
  let s := e * Float.sin phi
  Float.tan (Elementary.pi / 4.0 - phi / 2.0) / Float.pow ((1.0 - s) / (1.0 + s)) (e / 2.0)

/-- The distance from the pole on the plane, for a latitude in radians away
from the equator. -/
def polarDistance (phi : Float) : Float :=
  let es := Reference.worldEllipsoid.eccentricitySquared
  let e := Float.sqrt es
  let phi₀ := trueScaleLat * (Elementary.pi / 180.0)
  let s := e * Float.sin phi₀
  let m := Float.cos phi₀ / Float.sqrt (1.0 - s * s)
  if (phi - Elementary.pi / 2.0).abs < 1.0e-10 then 0.0
  else Reference.worldEllipsoid.radius * m * polarTangent e phi / polarTangent e phi₀

/-- The column letters around a pole, west of it and east of it: the letters
that look like the band letters and numbers of other grids are left out. -/
def polarColumns (east : Bool) : List Char :=
  if east then "ABCFGHJKLPQRSTUXYZ".toList else "JKLPQRSTUXYZ".toList

/-- A position around a pole, angles in radians. -/
def aroundPole (lat lng : Float) : Position :=
  let north := decide (0.0 ≤ lat)
  let distance := polarDistance lat.abs
  let easting := poleOffset + distance * Float.sin lng
  let northing := if north then poleOffset - distance * Float.cos lng
    else poleOffset + distance * Float.cos lng
  let east := decide (poleOffset ≤ easting)
  let column := ((easting - (if east then poleOffset else 800000.0)) / squareSide).toUInt64.toNat
  let row := ((northing - (if north then 1300000.0 else 800000.0)) / squareSide).toUInt64.toNat
  { zone := match north, east with
      | true, true => "Z"
      | true, false => "Y"
      | false, true => "B"
      | false, false => "A"
    square := [((polarColumns east)[column]?).getD 'Z', letterAt row]
    easting, northing }

-- ============================================================== references

/-- By how much a latitude in radians may lie outside the strips and still
count as inside: about a meter. -/
def tolerance : Float := 1.75e-7

/-- Whether a latitude in radians has strips. -/
def hasStrips (lat : Float) : Bool :=
  let degree := Elementary.pi / 180.0
  decide (-80.0 * degree - tolerance ≤ lat) && decide (lat < 84.0 * degree + tolerance)

/-- The position of a point, angles in radians. -/
def positionAt (lat lng : Float) : Option Position :=
  if !hasStrips lat then some (aroundPole lat lng)
  else
    let strip := stripAt lat lng
    let away := Reference.wrapped (lng - Elementary.radians (Reference.centralMeridian strip))
    (TransverseMercator.project Reference.worldEllipsoid away lat).map fun (x, y) =>
      inStrip strip lat (x + Reference.falseEasting) (if lat < 0.0 then y + 10000000.0 else y)

/-- The reference of a latitude and a longitude in degrees. -/
def reference (lat lng : Float) (digits : Int) : Outcome String :=
  let phi : Float := Elementary.radians lat
  let lam : Float := Elementary.radians lng
  let halfTurn : Float := Elementary.pi
  if phi.abs ≤ halfTurn / 2.0 ∧ -halfTurn ≤ lam ∧ lam ≤ 2.0 * halfTurn
      ∧ 0 ≤ digits ∧ digits ≤ 5 then
    match positionAt phi lam with
    | some p => .ok (p.text digits.toNat)
    | none => .error .outsideMilitaryGrid
  else .error .outsideMilitaryGrid

end MilitaryGrid

instance : Survey Float where
  project := Reference.project
  locate := Reference.locate
  militaryReference := MilitaryGrid.reference

end MapSheets
