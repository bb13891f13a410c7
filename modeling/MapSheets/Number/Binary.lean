import MapSheets.Number.Power
import MapSheets.Number.Rounding
import MapSheets.Number.Scalar

/-
Doubles taken apart and put together. A finite double is a whole number of
halves of halves: `decode` reads the sign, the significand and the exponent
off its bits, and every exact question (its floor, its exact rational, its
decimal text) is then answered in whole numbers. The way back is `nearest`:
a fraction is rounded once, to the double that is nearest.
-/

namespace MapSheets

/-- What the sixty-four bits of a double say. -/
inductive Binary where
  | undefined
  | infinite (negative : Bool)
  /-- The value `significand * 2 ^ exponent`, or its opposite. -/
  | finite (negative : Bool) (significand : Nat) (exponent : Int)
  deriving DecidableEq, Repr

namespace Binary

/-- Bits below the exponent field. -/
def fractionSize : Nat := 52

/-- The exponent of the least positive double. -/
def leastExponent : Int := -1074

/-- Reads the fields of a double: an exponent field of ones marks the
special values, one of zeros the numbers without a leading bit. -/
def ofBits (bits : Nat) : Binary :=
  let negative : Bool := bits / twoTo 63 % 2 == 1
  let field : Nat := bits / twoTo fractionSize % twoTo 11
  let fraction := bits % twoTo fractionSize
  if field = 2047 then
    if fraction = 0 then .infinite negative else .undefined
  else if field = 0 then .finite negative fraction leastExponent
  else .finite negative (twoTo fractionSize + fraction) (leastExponent + field - 1)

/-- The fields of a double. -/
def decode (x : Float) : Binary := ofBits x.toBits.toNat

/-- The whole number at or below `n * 2 ^ e`. -/
def shiftDown (n : Int) (e : Int) : Int :=
  if 0 ≤ e then n * twoTo e.toNat else n / twoTo (-e).toNat

/-- The largest whole number not above the value. -/
def floor? : Binary → Except Fault Int
  | .undefined => .error .notANumber
  | .infinite _ => .error .infinite
  | .finite negative m e => .ok (shiftDown (if negative then -m else m) e)

/-- The exact value of a finite double. -/
def toRat? : Binary → Option Rat
  | .undefined | .infinite _ => none
  | .finite negative m e =>
    let n : Int := if negative then -m else m
    some (if 0 ≤ e then (n * twoTo e.toNat : Int) else mkRat n (twoTo (-e).toNat))

-- ========================================================== the way back

/-- The exponent of the leading bit of a positive fraction. -/
def leadingExponent (n d : Nat) : Int :=
  let guess : Int := (n.log2 : Int) - d.log2
  -- the leading bits leave the quotient within one power of two
  let reaches : Bool :=
    if 0 ≤ guess then decide (d * twoTo guess.toNat ≤ n) else decide (d ≤ n * twoTo (-guess).toNat)
  if reaches then guess else guess - 1

/-- The bits of the double nearest to a fraction, of two equally near ones the
even one. A fraction beyond all doubles has the bits of infinity. -/
def nearestBits (n d : Nat) : Nat :=
  if n = 0 then 0
  else
    let e := max leastExponent (leadingExponent n d - fractionSize)
    let significand :=
      if 0 ≤ e then roundQuotient n (d * twoTo e.toNat) else roundQuotient (n * twoTo (-e).toNat) d
    min ((e - leastExponent).toNat * twoTo fractionSize + significand) (2047 * twoTo fractionSize)

/-- The double nearest to a fraction or to its opposite. -/
def nearest (negative : Bool) (n d : Nat) : Float :=
  Float.ofBits (UInt64.ofNat (nearestBits n d + (if negative then twoTo 63 else 0)))

/-- Up to this number every whole number is a double. -/
def greatestExact : Nat := twoTo (fractionSize + 1)

/-- The double nearest to the quotient of two whole numbers. -/
def quotient (p q : Int) : Float :=
  if q = 0 ∨ (p.natAbs ≤ greatestExact ∧ q.natAbs ≤ greatestExact) then Float.ofInt p / Float.ofInt q
  else nearest (decide (p < 0) != decide (q < 0)) p.natAbs q.natAbs

end Binary

instance : Scalar Float where
  decideLT := fun a b => Float.decLt a b
  decideLE := fun a b => Float.decLe a b
  ofInt := Float.ofInt
  ratio := Binary.quotient
  magnitude := Float.abs
  isFinite := Float.isFinite
  floor? x := (Binary.decode x).floor?

instance : Scalar Rat where
  decideLT := fun _ _ => inferInstance
  decideLE := fun _ _ => inferInstance
  ofInt n := (n : Rat)
  ratio p q := (p : Rat) / (q : Rat)
  magnitude x := if x < 0 then -x else x
  isFinite _ := true
  floor? x := .ok x.floor

end MapSheets
