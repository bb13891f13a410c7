import MapSheets.Number.Decimal

/-
The logarithm to base ten of a whole number, as far as its whole part goes.
Exactly it is one less than the count of digits. Computed with doubles it
is the same for all but very large numbers, where the logarithm of a number
just below a power of ten may round up to the next whole number.

How it is computed is a class, so a law about printed digits can be stated
for the exact logarithm while sheets are printed with the computed one.
-/

namespace MapSheets

/-- A way to find the whole part of logarithms to base ten. -/
class DecimalLogarithm where
  /-- The whole part of the logarithm of a positive number. -/
  whole : Nat → Nat

namespace DecimalLogarithm

/-- The whole part by the count of digits. -/
def byDigits (n : Nat) : Nat := Decimal.digitCount n - 1

/-- The exact logarithm. -/
abbrev exact : DecimalLogarithm := ⟨byDigits⟩

/-- The logarithm of a number beyond all doubles: the number is taken as a
fraction between a half and one times a power of two. -/
def ofScaled (n : Nat) : Float :=
  let exponent := n.log2 + 1
  let fraction := Binary.nearest false n (twoTo exponent)
  let (fraction, exponent) := if fraction < 1.0 then (fraction, exponent) else (0.5, exponent + 1)
  Float.log10 fraction + Float.log10 2.0 * Float.ofNat exponent

/-- The logarithm of a positive number as a double. -/
def ofDouble (n : Nat) : Float :=
  let x := Float.ofNat n
  if x.isFinite then Float.log10 x else ofScaled n

/-- Below this number the doubles are fine enough to give the exact whole part. -/
def firstRough : Nat := tenTo 14

/-- The logarithm computed with doubles. -/
instance : DecimalLogarithm where
  whole n := if n < firstRough then byDigits n else (ofDouble n).floor.toUInt64.toNat

end DecimalLogarithm

end MapSheets
