import MapSheets.Number.Elementary

/-
Ellipsoids, and the lengths measured on them: an arc second of latitude and
of longitude, and the way between two points along a great circle.
-/

namespace MapSheets

/-- An ellipsoid of revolution: the radius of its equator in meters and the
square of its first eccentricity. -/
structure Ellipsoid (α : Type) where
  radius : α
  eccentricitySquared : α

namespace Ellipsoid

variable {α : Type} [Scalar α]

/-- The ellipsoid that sheets are drawn on. -/
def standard : Ellipsoid α :=
  { radius := 6378137, eccentricitySquared := Scalar.ratio 669438 100000000 }

end Ellipsoid

namespace Arc

variable {α : Type} [Scalar α] [Elementary α]

/-- The meters in one second of latitude at a latitude. -/
def latSecond (lat : α) : Except Fault α := do
  let φ := lat * (2 * Elementary.pi / 360)
  let c₂ ← Elementary.cosine? (2 * φ)
  let c₄ ← Elementary.cosine? (4 * φ)
  let c₆ ← Elementary.cosine? (6 * φ)
  return (Scalar.ratio 11113292 100 + Scalar.ratio (-55982) 100 * c₂ + Scalar.ratio 1175 1000 * c₄
    + Scalar.ratio (-23) 10000 * c₆) / 3600

/-- The meters in one second of longitude at a latitude. -/
def lngSecond (lat : α) : Except Fault α := do
  let φ := lat * (2 * Elementary.pi / 360)
  let c₁ ← Elementary.cosine? φ
  let c₃ ← Elementary.cosine? (3 * φ)
  let c₅ ← Elementary.cosine? (5 * φ)
  return (Scalar.ratio 11141284 100 * c₁ + Scalar.ratio (-935) 10 * c₃
    + Scalar.ratio 118 1000 * c₅) / 3600

/-- The meters in one second of latitude and of longitude at a latitude. -/
def seconds (lat : α) : Except Fault (α × α) := do
  let latLength ← latSecond lat
  let lngLength ← lngSecond lat
  return (latLength, lngLength)

/-- The meters between two points, given by longitude and latitude, on the
sphere with the radius of the equator. -/
def greatCircle (ellipsoid : Ellipsoid α) (p q : α × α) : Except Fault α := do
  let φ₁ := Elementary.radians p.2
  let φ₂ := Elementary.radians q.2
  let s ← Elementary.sine? (Elementary.radians (q.2 - p.2) / 2)
  let c₁ ← Elementary.cosine? φ₁
  let c₂ ← Elementary.cosine? φ₂
  let t ← Elementary.sine? (Elementary.radians (q.1 - p.1) / 2)
  let a := s * s + c₁ * c₂ * (t * t)
  let long ← Elementary.squareRoot? a
  let short ← Elementary.squareRoot? (1 - a)
  return ellipsoid.radius * (2 * Elementary.arcTangent₂ long short)

end Arc

end MapSheets
