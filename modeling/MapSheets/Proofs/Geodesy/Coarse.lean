import MapSheets.Geodesy.Survey
import MapSheets.Number.Elementary
import MapSheets.Number.Reading
import MapSheets.Proofs.Number.Unlimited
import MapSheets.Source.Provider

/-
Coarse sheets. The laws of layout hold for every set of elementary functions
and for every survey over the rationals; this file has one of each that is
computed in a few rational steps, so that a law can be tried on a cell whose
sheet is worked out to the end. The functions are the first terms of their
series, the logarithm is straight between powers of two, and the survey
unrolls the sphere along the parallels. Near the equator and the middle of a
zone this comes close to the globe.
-/

namespace MapSheets.Coarse

/-- An integral power of two. -/
def twoToInt (k : Int) : Rat := if 0 ≤ k then twoTo k.toNat else 1 / twoTo (-k).toNat

/-- A power of two, straight between the integral ones. -/
def powerOfTwo (x : Rat) : Rat := (1 + (x - x.floor)) * twoToInt x.floor

/-- The logarithm to base two, straight between the powers of two. -/
def logarithm₂ (x : Rat) : Rat :=
  let k := Binary.leadingExponent x.num.natAbs x.den
  k + (x / twoToInt k - 1)

/-- The square root in thousandths, rounded down. -/
def squareRoot (x : Rat) : Rat := (Nat.sqrt (x * 1000000).floor.toNat : Rat) / 1000

scoped instance : Elementary Rat where
  pi := 355 / 113
  sine x := x - x * x * x / 6
  cosine x := 1 - x * x / 2 + x * x * (x * x) / 24
  tangent x := x + x * x * x / 3
  arcTangent x := x - x * x * x / 3
  arcTangent₂ y x := y / x - y / x * (y / x) * (y / x) / 3
  hyperbolicSine x := x + x * x * x / 6
  areaHyperbolicSine x := x - x * x * x / 6
  squareRoot := squareRoot
  -- never shorter than one of the legs
  hypotenuse x y :=
    Scalar.greatest (Scalar.greatest (Scalar.magnitude x) (Scalar.magnitude y))
      (squareRoot (x * x + y * y))
  powerOfTwo := powerOfTwo
  logarithm₂ := logarithm₂

/-- The hypotenuse is as long as its first leg, so that an edge that runs forward
has a length. -/
theorem hypotenuse_pos (x y : Rat) (hx : 0 < x) : 0 < Elementary.hypotenuse x y := by
  show 0 < Scalar.greatest (Scalar.greatest (Scalar.magnitude x) (Scalar.magnitude y)) _
  rw [Scalar.greatest_rat, Scalar.greatest_rat, Scalar.magnitude_rat]
  exact lt_max_of_lt_left (lt_max_of_lt_left (abs_pos.mpr hx.ne'))

theorem twoToInt_pos (k : Int) : 0 < twoToInt k := by
  have hpos (n : Nat) : (0 : Rat) < (twoTo n : Nat) := Nat.cast_pos.mpr (twoTo_pos n)
  unfold twoToInt
  split
  · exact hpos _
  · exact one_div_pos.mpr (hpos _)

/-- No power of two vanishes, whole or between whole ones. -/
theorem unlimited : Unlimited Rat :=
  unlimited_rat fun x => by
    show 0 < (1 + (x - x.floor)) * twoToInt x.floor
    have hfloor : (x.floor : Rat) ≤ x := Int.floor_le x
    exact mul_pos (by linarith) (twoToInt_pos _)

scoped instance : NumberText Rat where
  shortest x := toString x.num ++ (if x.den = 1 then "" else "/" ++ toString x.den)
  fixed places x := Decimal.signText (x < 0)
    ++ Decimal.placePoint places (roundQuotient (x.num.natAbs * tenTo places) x.den)

scoped instance : NumberReading Rat where
  read? s := (Reading.int? s).map fun n => (n : Rat)

scoped instance : Survey Rat where
  project _ zone lng lat :=
    .ok (500000 + (lng - (6 * zone - 183)) * 111320 * Elementary.cosine (Elementary.radians lat),
      lat * 110574)
  locate srid _ _ := .error (.referenceUnknown srid)
  militaryReference lat lng _ := do
    let zone ← Zone.ofPoint lat lng
    return zone.text ++ (Hemisphere.ofLat lat).letter

/-- A sheet over a box, under an identifier. -/
def featureOver (id : String) (box : Bounds Rat) : Feature Rat where
  shape := some (Shape.ofPolygon (Polygon.ofBounds box))
  row := [(Feature.idColumn, .text id)]

/-- A table of one sheet over a box. -/
def tableOver (box : Bounds Rat) : Provider Rat :=
  .table ⟨[{ shape := some (Shape.ofPolygon (Polygon.ofBounds box))
             row := [(Feature.idColumn, .text "A")] }], .fiftyThousand⟩

end MapSheets.Coarse
