import MapSheets.Number.Binary
import MapSheets.Number.Power
import MapSheets.Number.Rounding

/-
Numbers as decimal text. Three forms are written: the fewest digits that
read back as the same double, a fixed count of places, and a fixed count of
significant digits. All three start from the exact value of the double, in
whole numbers, so no digit depends on another rounding.

`Decimal.shortest?` is the search behind the first form: for one digit, two
digits and so on it tries the two neighbours of the value on that decimal
grid and stops at the first grid with a neighbour inside the interval of
reals that round to the double.
-/

namespace MapSheets

/-- The value `digits * 10 ^ exponent`. -/
structure Decimal where
  digits : Nat
  exponent : Int
  deriving DecidableEq, Repr

namespace Decimal

-- ================================================================ fractions

/-- The most places that a number is written with. -/
def mostPlaces : Nat := 2147483647

/-- How many decimal digits a whole number has; one for zero. -/
def digitCount (n : Nat) : Nat := (Nat.toDigits 10 n).length

/-- A positive fraction, as numerator and denominator. -/
structure Fraction where
  num : Nat
  den : Nat

/-- The fraction `n * 2 ^ e`. -/
def Fraction.ofBinary (n : Nat) (e : Int) : Fraction :=
  if 0 ≤ e then ⟨n * twoTo e.toNat, 1⟩ else ⟨n, twoTo (-e).toNat⟩

/-- The fraction times `10 ^ k`. -/
def Fraction.scale (f : Fraction) (k : Int) : Fraction :=
  if 0 ≤ k then ⟨f.num * tenTo k.toNat, f.den⟩ else ⟨f.num, f.den * tenTo (-k).toNat⟩

/-- The power `k` with `10 ^ (k - 1) ≤ f < 10 ^ k`, for a positive fraction. -/
def Fraction.magnitude (f : Fraction) : Int :=
  let guess : Int := (digitCount f.num : Int) - digitCount f.den
  -- the counts of digits leave the quotient within one power of ten
  let scaled := f.scale (-guess)
  if scaled.den ≤ scaled.num then guess + 1 else guess

-- ==================================================== the shortest digits

/-- Drops the zeros at the end of a digit string. -/
def trim (d : Decimal) : Decimal :=
  go (digitCount d.digits) d
where
  go : Nat → Decimal → Decimal
    | 0, d => d
    | fuel + 1, d =>
      if d.digits ≠ 0 ∧ d.digits % 10 = 0 then go fuel ⟨d.digits / 10, d.exponent + 1⟩ else d

/-- The reals that round to a double: the value and both ends over one
denominator. The ends belong to it if and only if the significand is even. -/
structure Interval where
  value : Nat
  low : Nat
  high : Nat
  den : Nat
  closed : Bool

/-- The interval of a positive double. Below a power of two the neighbour is
nearer, so the lower half gap is half as wide. -/
def Interval.ofBinary (m : Nat) (e : Int) : Interval :=
  let lowStep := if m = twoTo Binary.fractionSize ∧ Binary.leastExponent < e then 1 else 2
  let k := e - 2
  let unit : Nat := if 0 ≤ k then twoTo k.toNat else 1
  let den : Nat := if 0 ≤ k then 1 else twoTo (-k).toNat
  { value := 4 * m * unit, low := (4 * m - lowStep) * unit, high := (4 * m + 2) * unit
    den := den, closed := m % 2 = 0 }

/-- Whether the grid point `d * 10 ^ k` lies in the interval. -/
def Interval.contains (i : Interval) (d : Nat) (k : Int) : Bool :=
  let point := if 0 ≤ k then d * tenTo k.toNat * i.den else d * i.den
  let unit := if 0 ≤ k then 1 else tenTo (-k).toNat
  if i.closed then decide (i.low * unit ≤ point) && decide (point ≤ i.high * unit)
  else decide (i.low * unit < point) && decide (point < i.high * unit)

/-- The grid points `d * 10 ^ k` next to the value that lie in the interval;
of two the nearer one, of two equally near the even one. -/
def Interval.nearestOn (i : Interval) (k : Int) : Option Nat :=
  let scaled := Fraction.scale ⟨i.value, i.den⟩ (-k)
  let below := scaled.num / scaled.den
  let above := below + 1
  match i.contains below k && below != 0, i.contains above k with
  | false, false => none
  | true, false => some below
  | false, true => some above
  | true, true => some (roundQuotient scaled.num scaled.den)

/-- The shortest decimal that reads back as the positive double `m * 2 ^ e`. -/
def shortest (m : Nat) (e : Int) : Decimal :=
  let i := Interval.ofBinary m e
  let top := Fraction.magnitude ⟨i.value, i.den⟩
  let grids := (List.range 17).map fun (n : Nat) => top - ((n : Int) + 1)
  match grids.findSome? fun k => (i.nearestOn k).map fun d => (d, k) with
  | some (d, k) => trim ⟨d, k⟩
  | none => ⟨0, 0⟩

-- ============================================================== the texts

/-- How a shortest decimal is laid out. -/
structure Style where
  /-- The least decimal exponent written without a power of ten. -/
  leastPlain : Int
  /-- The first decimal exponent written with a power of ten. -/
  firstScaled : Int
  undefined : String
  infinite : String

/-- The plain form between a ten thousandth and ten quadrillions. -/
def plainStyle : Style :=
  { leastPlain := -4, firstScaled := 16, undefined := "nan", infinite := "inf" }

/-- As many zeros as asked for. -/
def zeros (n : Nat) : String := String.ofList (List.replicate n '0')

/-- A whole number with zeros in front, up to a width. -/
def padded (width : Nat) (n : Nat) : String :=
  let digits := toString n
  zeros (width - digits.length) ++ digits

/-- The exponent of a power of ten: always a sign, at least two digits. -/
def exponentText (e : Int) : String :=
  (if e < 0 then "e-" else "e+") ++ padded 2 e.natAbs

/-- Writes a decimal in a style: a point always stands in the plain form, and
in the scaled form only between digits. -/
def Style.layOut (style : Style) (d : Decimal) : String :=
  let digits := toString d.digits
  let count := digits.length
  let exponent := d.exponent + count - 1
  if style.leastPlain ≤ exponent ∧ exponent < style.firstScaled then
    if exponent < 0 then "0." ++ zeros ((-exponent).toNat - 1) ++ digits
    else
      let whole := exponent.toNat + 1
      if count ≤ whole then digits ++ zeros (whole - count) ++ ".0"
      else (digits.take whole).toString ++ "." ++ (digits.drop whole).toString
  else
    let rest := (digits.drop 1).toString
    (digits.take 1).toString ++ (if rest.isEmpty then "" else "." ++ rest) ++ exponentText exponent

/-- The sign in front of a number. -/
def signText (negative : Bool) : String := if negative then "-" else ""

/-- The shortest text of a double in a style. -/
def Style.text (style : Style) (x : Float) : String :=
  match Binary.decode x with
  | .undefined => style.undefined
  | .infinite negative => signText negative ++ style.infinite
  | .finite negative m e =>
    signText negative ++ style.layOut (if m = 0 then ⟨0, 0⟩ else shortest m e)

/-- A whole number of units of `10 ^ -places` with the point put in. -/
def placePoint (places : Nat) (units : Nat) : String :=
  if places = 0 then toString units
  else toString (units / tenTo places) ++ "." ++ padded places (units % tenTo places)

/-- The exact value rounded to a count of places, a half to the even
neighbour. The sign is kept even where only zeros are shown. -/
def fixed (places : Nat) (x : Float) : String :=
  match Binary.decode x with
  | .undefined => plainStyle.undefined
  | .infinite negative => signText negative ++ plainStyle.infinite
  | .finite negative m e =>
    let f := (Fraction.ofBinary m e).scale places
    signText negative ++ placePoint places (roundQuotient f.num f.den)

/-- The exact value rounded to one digit before the point and a count of
places after it, with a power of ten. -/
def scientific (places : Nat) (x : Float) : String :=
  match Binary.decode x with
  | .undefined => plainStyle.undefined
  | .infinite negative => signText negative ++ plainStyle.infinite
  | .finite negative m e =>
    if m = 0 then signText negative ++ placePoint places 0 ++ exponentText 0
    else
      let f := Fraction.ofBinary m e
      let top := f.magnitude
      let scaled := f.scale (places + 1 - top)
      let units := roundQuotient scaled.num scaled.den
      -- rounding may carry into a further digit
      if units = tenTo (places + 1) then
        signText negative ++ placePoint places (units / 10) ++ exponentText top
      else signText negative ++ placePoint places units ++ exponentText (top - 1)

end Decimal

/-- The texts in which a quantity is printed. -/
class NumberText (α : Type) where
  /-- The shortest text that reads back. -/
  shortest : α → String
  /-- The text with a count of places after the point. -/
  fixed : Nat → α → String

instance : NumberText Float where
  shortest := Decimal.plainStyle.text
  fixed := Decimal.fixed

end MapSheets
