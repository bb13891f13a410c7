import MapSheets.Json.Value
import MapSheets.Number.Exact

/-
Amounts as they were given. A setting of a thousand prints as it was
written, with a point or without; what is computed from it does not care.
A truth value counts as one or zero.
-/

namespace MapSheets

/-- A number that remembers how it was given. -/
inductive Amount (α : Type) where
  | whole (n : Int)
  | real (x : α)
  | flag (b : Bool)

namespace Amount

variable {α : Type}

section
variable [NumberText α]

/-- The amount in print. -/
def text : Amount α → String
  | whole n => toString n
  | real x => NumberText.shortest x
  | flag b => if b then "True" else "False"

end

variable [Scalar α]

/-- The amount as a quantity; one beyond every finite quantity is refused. -/
def value? : Amount α → Except Fault α
  | whole n => Scalar.ofInt? n
  | real x => .ok x
  | flag b => .ok (if b then 1 else 0)

/-- Whether the amount is zero or less. -/
def isAtMostZero : Amount α → Bool
  | whole n => n ≤ 0
  | real x => decide (x ≤ 0)
  | flag b => !b

/-- Whether the amount is nothing. -/
def isNothing : Amount α → Bool
  | whole n => n == 0
  | real x => Scalar.isZero x
  | flag b => !b

/-- Whether the amount lies between two whole numbers or on one of them. -/
def isWithin (low high : Int) : Amount α → Bool
  | whole n => low ≤ n && n ≤ high
  | real x => decide (Scalar.ofInt low ≤ x) && decide (x ≤ Scalar.ofInt high)
  | flag b => low ≤ b.toNat && b.toNat ≤ high

/-- The amount less one. -/
def pred : Amount α → Amount α
  | whole n => whole (n - 1)
  | real x => real (x - 1)
  | flag b => whole (b.toNat - 1)

/-- The amount times a whole number. -/
def timesWhole? (k : Int) : Amount α → Except Fault (Amount α)
  | whole n => .ok (whole (n * k))
  | real x => do return real (x * (← Scalar.ofInt? k))
  | flag b => .ok (whole (b.toNat * k))

/-- The product of two amounts; that of whole numbers is exact. -/
def times? : Amount α → Amount α → Except Fault (Amount α)
  | a, whole n => a.timesWhole? n
  | a, flag b => a.timesWhole? b.toNat
  | a, real y => do return real ((← a.value?) * y)

/-- The quotient of two amounts; that of whole numbers is rounded once. -/
def over? : Amount α → Amount α → Except Fault α
  | whole m, whole n => Scalar.ratio? m n
  | a, b => do Scalar.quotient? (← a.value?) (← b.value?)

/-- The whole part. -/
def truncate? : Amount α → Except Fault Int
  | whole n => .ok n
  | real x => Scalar.truncate? x
  | flag b => .ok b.toNat

end Amount

/-- The amount of a JSON number, or of a truth value. -/
def Amount.ofJson? {α : Type} [OfDouble α] : Json → Option (Amount α)
  | .int n => some (.whole n)
  | .float x => (OfDouble.ofDouble? x).map .real
  | .bool b => some (.flag b)
  | _ => none

end MapSheets
