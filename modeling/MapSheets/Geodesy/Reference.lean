import MapSheets.Failure
import MapSheets.Geodesy.TransverseMercator
import MapSheets.Geodesy.Zone

/-
Reference systems by number. Known are longitude and latitude themselves,
the spherical web map, and the strips of the universal grid north (32601 to
32660) and south (32701 to 32760) on the world ellipsoid.
-/

namespace MapSheets.Reference

/-- The world ellipsoid, by its flattening. -/
def worldEllipsoid : Ellipsoid Float :=
  let f := 1.0 / 298.257223563
  { radius := 6378137.0, eccentricitySquared := f * (2.0 - f) }

/-- The radius of the spherical web map. -/
def sphereRadius : Float := 6378137.0

/-- The easting of the central meridian of a strip. -/
def falseEasting : Float := 500000.0

/-- The result where a projection has none. -/
def nowhere : Float × Float := (1.0 / 0.0, 1.0 / 0.0)

/-- The central meridian of a strip, in degrees. -/
def centralMeridian (zone : Int) : Float := Float.ofInt (6 * zone - 183)

/-- An angle in radians between minus and plus half a turn. -/
def wrapped (angle : Float) : Float :=
  let halfTurn := Elementary.pi
  if angle.abs < halfTurn + 1e-12 then angle
  else
    let turn := 2.0 * halfTurn
    let shifted := angle + halfTurn
    shifted - turn * Float.floor (shifted / turn) - halfTurn

/-- Easting and northing of a longitude and a latitude in a strip; the
northing counts from the equator. Points off the globe have none. -/
def project (ellipsoid : Ellipsoid Float) (zone : Int) (lng lat : Float) :
    Outcome (Float × Float) :=
  let es := ellipsoid.eccentricitySquared
  if !(0.0 < ellipsoid.radius && ellipsoid.radius.isFinite && 0.0 < es && es < 1.0) then
    .error .ellipsoidRefused
  else if Float.sqrt (1.0 - es) == 1.0 then .error .ellipsoidTooRound
  else
    let quarter := Elementary.pi / 2.0
    let phi : Float := Elementary.radians lat
    let lam : Float := Elementary.radians lng
    if phi.abs.isInf || lam.isInf || phi.abs - quarter > 1e-12 || lam.abs > 10.0 then .ok nowhere
    else
      let phi := if quarter < phi then quarter else if phi < -quarter then -quarter else phi
      let away := wrapped (wrapped lam - Elementary.radians (centralMeridian zone))
      match TransverseMercator.project ellipsoid away phi with
      | some (x, y) => .ok (x + falseEasting, y)
      | none => .ok nowhere

/-- Longitude and latitude of a point in a strip. -/
def ofStrip (zone : Int) (falseNorthing x y : Float) : Float × Float :=
  if !x.isFinite || !y.isFinite then nowhere
  else
    match TransverseMercator.unproject worldEllipsoid (x - falseEasting) (y - falseNorthing) with
    | some (lam, phi) =>
      (Elementary.degrees (wrapped (lam + Elementary.radians (centralMeridian zone))),
        Elementary.degrees phi)
    | none => nowhere

/-- Longitude and latitude of a point of the web map. -/
def ofWebMap (x y : Float) : Float × Float :=
  if !x.isFinite || !y.isFinite then nowhere
  else
    (Elementary.degrees (wrapped (x / sphereRadius)),
      Elementary.degrees (Float.atan (Float.sinh (y / sphereRadius))))

/-- A reference system. -/
inductive System where
  | geographic
  | webMap
  | strip (zone : Int) (hemisphere : Hemisphere)

/-- The system of a number. -/
def system? (srid : Int) : Option System :=
  if srid = 4326 then some .geographic
  else if srid = 3857 then some .webMap
  else if 32601 ≤ srid ∧ srid ≤ 32660 then some (.strip (srid - 32600) .north)
  else if 32701 ≤ srid ∧ srid ≤ 32760 then some (.strip (srid - 32700) .south)
  else none

/-- Whether a number stands for a system. -/
def isKnown (srid : Int) : Bool := (system? srid).isSome

/-- The northing of the equator in a strip. -/
def equatorNorthing : Hemisphere → Float
  | .north => 0.0
  | .south => 10000000.0

/-- Longitude and latitude of a point of a system. Of a point with an undefined
coordinate both are undefined. -/
def ofSystem (s : System) (x y : Float) : Float × Float :=
  match s with
  | .geographic => (x, y)
  | .webMap => if x.isNaN || y.isNaN then (x + y, x + y) else ofWebMap x y
  | .strip zone hemisphere =>
    if x.isNaN || y.isNaN then (x + y, x + y)
    else ofStrip zone (equatorNorthing hemisphere) x y

/-- Longitude and latitude of a point in the system of a number. -/
def locate (srid : Int) (x y : Float) : Outcome (Float × Float) :=
  match system? srid with
  | some s => .ok (ofSystem s x y)
  | none => .error (.referenceUnknown srid)

end MapSheets.Reference
