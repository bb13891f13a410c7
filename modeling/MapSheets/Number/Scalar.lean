import MapSheets.Number.Fault

/-
The arithmetic that layout is written in. A sheet is laid out with ring
operations, division, comparison and the step to whole numbers, and with
nothing else; `Scalar` collects them. Code over a `Scalar` runs on doubles
and reads as exact arithmetic on rationals, by the choice of instance.

Whole numbers are reached through `floor?` alone. Truncation, the ceiling
and rounding to the nearest are stated from it, so an instance supplies one
conversion and the rest agree by definition.
-/

namespace MapSheets

/-- A field of measure: what coordinates, lengths and angles are counted in. -/
class Scalar (α : Type) extends Add α, Sub α, Mul α, Div α, Neg α, LT α, LE α where
  decideLT : DecidableLT α
  decideLE : DecidableLE α
  /-- The whole number nearest in `α`. -/
  ofInt : Int → α
  /-- The quotient of two whole numbers nearest in `α`, for constants such as a
  fortieth. Nothing is said of a divisor zero. -/
  ratio : Int → Int → α
  /-- The distance from zero. -/
  magnitude : α → α
  /-- Neither infinite nor undefined. -/
  isFinite : α → Bool
  /-- The largest whole number that is not above. -/
  floor? : α → Except Fault Int

namespace Scalar

variable {α : Type} [Scalar α]

instance (priority := low) instDecidableLT (a b : α) : Decidable (a < b) :=
  Scalar.decideLT a b

instance (priority := low) instDecidableLE (a b : α) : Decidable (a ≤ b) :=
  Scalar.decideLE a b

instance (priority := low) instOfNat (n : Nat) : OfNat α n :=
  ⟨Scalar.ofInt n⟩

instance (priority := low) instInhabited : Inhabited α :=
  ⟨Scalar.ofInt 0⟩

-- ============================================== comparisons and constants

/-- Neither above nor below zero; false of an undefined quantity. -/
def isZero (x : α) : Bool := decide (x ≤ 0) && decide (0 ≤ x)

/-- An undefined quantity does not even equal itself. -/
def isUndefined (x : α) : Bool := !decide (x ≤ x)

/-- The smaller of two, the first one if neither is. -/
def least (a b : α) : α := if b < a then b else a

/-- The larger of two, the first one if neither is. -/
def greatest (a b : α) : α := if a < b then b else a

-- ================================================== operations that fail

/-- The quotient; a zero divisor is refused. -/
def quotient? (x y : α) : Except Fault α :=
  if isZero y then .error .divisionByZero else .ok (x / y)

/-- A whole number as a quantity; one beyond every finite quantity is refused. -/
def ofInt? (n : Int) : Except Fault α :=
  let x : α := ofInt n
  if isFinite x then .ok x else .error .wholeTooLarge

/-- The quotient of two whole numbers, rounded once. -/
def ratio? (p q : Int) : Except Fault α :=
  if q = 0 then .error .divisionByZero
  else
    let x : α := ratio p q
    if isFinite x then .ok x else .error .tooLarge

/-- The whole part, toward zero. -/
def truncate? (x : α) : Except Fault Int :=
  if x < 0 then (floor? (-x)).map (- ·) else floor? x

/-- The smallest whole number that is not below. -/
def ceil? (x : α) : Except Fault Int :=
  (floor? (-x)).map (- ·)

/-- The nearest whole number of a quantity that is not negative; a half goes
to the even neighbour. -/
def roundUpward? (x : α) : Except Fault Int := do
  let below ← floor? x
  let rest := x - ofInt below
  let half : α := ratio 1 2
  if rest < half then return below
  if half < rest then return below + 1
  return if below % 2 = 0 then below else below + 1

/-- The nearest whole number; a half goes to the even neighbour. -/
def round? (x : α) : Except Fault Int :=
  if x < 0 then (roundUpward? (-x)).map (- ·) else roundUpward? x

end Scalar

end MapSheets
