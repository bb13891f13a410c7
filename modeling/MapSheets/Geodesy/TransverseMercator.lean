import MapSheets.Geodesy.Ellipsoid

/-
The transverse Mercator projection of an ellipsoid, by series in the third
flattening carried to its sixth power. A point goes from the ellipsoid to
the sphere of equal angles, is turned so that the central meridian lies like
an equator, and goes by a second series to the plane; the way back uses the
two inverse series.

The result is in meters at the scale of the universal grid, east of the
central meridian and north of the equator. Far from the central meridian the
series diverge, and the projection has no value there.
-/

namespace MapSheets.TransverseMercator

/-- The scale on the central meridian. -/
def scale : Float := 0.9996

/-- Beyond this the series are not used, in radii from the central meridian. -/
def reach : Float := 2.623395162778

/-- The sum of a row of coefficients, each with one more factor. -/
def series (n : Float) (coefficients : List Float) : Float :=
  coefficients.foldr (fun c rest => c + n * rest) 0.0

/-- The third flattening of an ellipsoid. -/
def thirdFlattening (es : Float) : Float :=
  let f := 1.0 - Float.sqrt (1.0 - es)
  f / (2.0 - f)

/-- The powers of `n` in front of the six rows. -/
def rows (n : Float) (coefficients : List (List Float)) : List Float :=
  (coefficients.foldl (fun (power, acc) row => (power * n, acc ++ [power * series n row]))
    (n, [])).2

/-- From latitude to the latitude on the sphere of equal angles. -/
def toSphere (n : Float) : List Float := rows n
  [[-2.0, 2.0 / 3.0, 4.0 / 3.0, -82.0 / 45.0, 32.0 / 45.0, 4642.0 / 4725.0],
   [5.0 / 3.0, -16.0 / 15.0, -13.0 / 9.0, 904.0 / 315.0, -1522.0 / 945.0],
   [-26.0 / 15.0, 34.0 / 21.0, 8.0 / 5.0, -12686.0 / 2835.0],
   [1237.0 / 630.0, -12.0 / 5.0, -24832.0 / 14175.0],
   [-734.0 / 315.0, 109598.0 / 31185.0],
   [444337.0 / 155925.0]]

/-- From the latitude on the sphere of equal angles to latitude. -/
def fromSphere (n : Float) : List Float := rows n
  [[2.0, -2.0 / 3.0, -2.0, 116.0 / 45.0, 26.0 / 45.0, -2854.0 / 675.0],
   [7.0 / 3.0, -8.0 / 5.0, -227.0 / 45.0, 2704.0 / 315.0, 2323.0 / 945.0],
   [56.0 / 15.0, -136.0 / 35.0, -1262.0 / 105.0, 73814.0 / 2835.0],
   [4279.0 / 630.0, -332.0 / 35.0, -399572.0 / 14175.0],
   [4174.0 / 315.0, -144838.0 / 6237.0],
   [601676.0 / 22275.0]]

/-- From the turned sphere to the plane. -/
def toPlane (n : Float) : List Float := rows n
  [[0.5, -2.0 / 3.0, 5.0 / 16.0, 41.0 / 180.0, -127.0 / 288.0, 7891.0 / 37800.0],
   [13.0 / 48.0, -3.0 / 5.0, 557.0 / 1440.0, 281.0 / 630.0, -1983433.0 / 1935360.0],
   [61.0 / 240.0, -103.0 / 140.0, 15061.0 / 26880.0, 167603.0 / 181440.0],
   [49561.0 / 161280.0, -179.0 / 168.0, 6601661.0 / 7257600.0],
   [34729.0 / 80640.0, -3418889.0 / 1995840.0],
   [212378941.0 / 319334400.0]]

/-- From the plane to the turned sphere. -/
def fromPlane (n : Float) : List Float := rows n
  [[-0.5, 2.0 / 3.0, -37.0 / 96.0, 1.0 / 360.0, 81.0 / 512.0, -96199.0 / 604800.0],
   [-1.0 / 48.0, -1.0 / 15.0, 437.0 / 1440.0, -46.0 / 105.0, 1118711.0 / 3870720.0],
   [-17.0 / 480.0, 37.0 / 840.0, 209.0 / 4480.0, -5569.0 / 90720.0],
   [-4397.0 / 161280.0, 11.0 / 504.0, 830251.0 / 7257600.0],
   [-4583.0 / 161280.0, 108847.0 / 3991680.0],
   [-20648693.0 / 638668800.0]]

/-- The length of a radian of the rectified meridian, in radii. -/
def quadrant (n : Float) : Float :=
  let s := n * n
  scale / (1.0 + n) * (1.0 + s * (1.0 / 4.0 + s * (1.0 / 64.0 + s / 256.0)))

/-- The sine series of an angle, given the sine and cosine of its double. -/
def sineSeries (coefficients : List Float) (sine cosine : Float) : Float :=
  let (h, _) := coefficients.foldr
    (fun c (h₁, h₂) => (-h₂ + 2.0 * cosine * h₁ + c, h₁)) (0.0, 0.0)
  h * sine

/-- The sine series of a complex angle, given the circular functions of its
real part and the hyperbolic functions of its imaginary part. -/
def complexSineSeries (coefficients : List Float) (sin cos sinh cosh : Float) : Float × Float :=
  let r := 2.0 * cos * cosh
  let i := -2.0 * sin * sinh
  let ((hr, hi), _) := coefficients.foldr
    (fun c ((hr₁, hi₁), (hr₂, hi₂)) =>
      ((-hr₂ + r * hr₁ - i * hi₁ + c, -hi₂ + i * hr₁ + r * hi₁), (hr₁, hi₁)))
    ((0.0, 0.0), (0.0, 0.0))
  let r := sin * cosh
  let i := cos * sinh
  (r * hr - i * hi, r * hi + i * hr)

/-- The plane point of a latitude and a longitude from the central meridian,
both in radians. -/
def project (ellipsoid : Ellipsoid Float) (lam phi : Float) : Option (Float × Float) :=
  let n := thirdFlattening ellipsoid.eccentricitySquared
  let lat := phi + sineSeries (toSphere n) (Float.sin (2.0 * phi)) (Float.cos (2.0 * phi))
  let sinLat := Float.sin lat
  let cosLat := Float.cos lat
  let across := cosLat * Float.cos lam
  let turned := Float.atan2 sinLat across
  let inverse := 1.0 / Elementary.hypotenuse sinLat across
  let tangent := Float.sin lam * cosLat * inverse
  let twice := 2.0 * inverse
  let square := twice * inverse
  let t := across * square
  let (dn, de) := complexSineSeries (toPlane n) (sinLat * t) (across * t - 1.0)
    (tangent * twice) (square - 1.0)
  let north := turned + dn
  let east := Float.asinh tangent + de
  let q := quadrant n
  if east.abs ≤ reach then some (ellipsoid.radius * (q * east), ellipsoid.radius * (q * north))
  else none

/-- The longitude from the central meridian and the latitude, in radians, of a
plane point. -/
def unproject (ellipsoid : Ellipsoid Float) (x y : Float) : Option (Float × Float) :=
  let n := thirdFlattening ellipsoid.eccentricitySquared
  let q := quadrant n
  let north := y / ellipsoid.radius / q
  let east := x / ellipsoid.radius / q
  if east.abs ≤ reach then
    let growth := Float.exp (2.0 * east)
    let decay := 0.5 / growth
    let (dn, de) := complexSineSeries (fromPlane n) (Float.sin (2.0 * north))
      (Float.cos (2.0 * north)) (0.5 * growth - decay) (0.5 * growth + decay)
    let north := north + dn
    let sinh := Float.sinh (east + de)
    let cos := Float.cos north
    let sin := Float.sin north
    let modulus := Elementary.hypotenuse sinh cos
    let lat := Float.atan2 sin modulus
    let t := 2.0 * modulus / (sinh * sinh + 1.0)
    some (Float.atan2 sinh cos, lat + sineSeries (fromSphere n) (sin * t) (t * modulus - 1.0))
  else none

end MapSheets.TransverseMercator
