import MapSheets.Number.Binary

/-
The elementary functions that geodesy needs, as one class: an angle's sine,
a power of two, a logarithm. The functions of the class are total; the
versions that end in a question mark refuse what has no value, so an
infinite angle or the logarithm of zero is a fault and not a number.
-/

namespace MapSheets

/-- A field of measure with the elementary functions. -/
class Elementary (α : Type) [Scalar α] where
  pi : α
  sine : α → α
  cosine : α → α
  tangent : α → α
  arcTangent : α → α
  /-- The angle of the point with the second argument as abscissa. -/
  arcTangent₂ : α → α → α
  hyperbolicSine : α → α
  areaHyperbolicSine : α → α
  squareRoot : α → α
  /-- The length of the long side of a right triangle. -/
  hypotenuse : α → α → α
  /-- The power of two with the given exponent. -/
  powerOfTwo : α → α
  logarithm₂ : α → α

/-- The length of the long side of a right triangle of doubles. The longer leg
is divided out first, so no square leaves the range of the numbers; an
infinite leg counts before an undefined one. -/
def floatHypotenuse (x y : Float) : Float :=
  let a := x.abs
  let b := y.abs
  if a.isInf || b.isInf then 1.0 / 0.0
  else if a.isNaN || b.isNaN then 0.0 / 0.0
  else
    let long := if a < b then b else a
    let short := if a < b then a else b
    if long == 0.0 then 0.0 else long * Float.sqrt (1.0 + short / long * (short / long))

instance : Elementary Float where
  pi := 3.141592653589793
  sine := Float.sin
  cosine := Float.cos
  tangent := Float.tan
  arcTangent := Float.atan
  arcTangent₂ := Float.atan2
  hyperbolicSine := Float.sinh
  areaHyperbolicSine := Float.asinh
  squareRoot := Float.sqrt
  hypotenuse := floatHypotenuse
  powerOfTwo x := Float.pow 2.0 x
  logarithm₂ := Float.log2

namespace Elementary

variable {α : Type} [Scalar α] [Elementary α]

/-- An angle in radians of one in degrees. -/
def radians (degrees : α) : α := degrees * (pi / 180)

/-- An angle in degrees of one in radians. -/
def degrees (radians : α) : α := radians * (180 / pi)

/-- Refuses an infinite argument, for functions that swing for ever. -/
def bounded? (f : α → α) (x : α) : Except Fault α :=
  if Scalar.isFinite x || Scalar.isUndefined x then .ok (f x) else .error .outsideDomain

/-- Refuses an infinite result of a finite argument. -/
def ranged? (f : α → α) (x : α) : Except Fault α :=
  let y := f x
  if Scalar.isFinite x && !Scalar.isFinite y then .error .tooLarge else .ok y

/-- The cosine of an angle. -/
def cosine? : α → Except Fault α := bounded? cosine

/-- The sine of an angle. -/
def sine? : α → Except Fault α := bounded? sine

/-- The tangent of an angle. -/
def tangent? : α → Except Fault α := bounded? tangent

/-- The hyperbolic sine. -/
def hyperbolicSine? : α → Except Fault α := ranged? hyperbolicSine

/-- The power of two with the given exponent. -/
def powerOfTwo? : α → Except Fault α := ranged? powerOfTwo

/-- The square root; negative numbers have none. -/
def squareRoot? (x : α) : Except Fault α :=
  if x < 0 then .error .outsideDomain else .ok (squareRoot x)

/-- The logarithm to base two; only positive numbers have one. -/
def logarithm₂? (x : α) : Except Fault α :=
  if x ≤ 0 then .error .outsideDomain else .ok (logarithm₂ x)

end Elementary

end MapSheets
