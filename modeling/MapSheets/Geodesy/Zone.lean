import MapSheets.Failure
import MapSheets.Number.Decimal
import MapSheets.Number.Scalar

/-
Zones of the transverse Mercator grid. The globe between 80 degrees south
and 84 degrees north is cut into sixty strips of six degrees, counted from
the antimeridian eastwards; two strips are widened in the north, over the
Norwegian coast and over Svalbard. Beyond lie the polar regions.
-/

namespace MapSheets

/-- Which side of the equator a point counts on. -/
inductive Hemisphere where
  | north
  | south
  deriving DecidableEq, Repr

namespace Hemisphere

/-- The equator counts as north. -/
def ofLat {α : Type} [Scalar α] (lat : α) : Hemisphere := if lat < 0 then south else north

/-- The name of a hemisphere. -/
def name : Hemisphere → String
  | north => "NORTH"
  | south => "SOUTH"

/-- The letter of a hemisphere. -/
def letter : Hemisphere → String
  | north => "N"
  | south => "S"

end Hemisphere

/-- A zone: one of the sixty strips, a polar region, or not known. -/
inductive Zone where
  | numbered (number : Nat) (inRange : 1 ≤ number ∧ number ≤ 60)
  | polar
  | unknown
  deriving DecidableEq, Repr

namespace Zone

/-- The strip of a number. -/
def ofStrip (number : Int) : Outcome Zone :=
  if h : 1 ≤ number ∧ number ≤ 60 then
    .ok (.numbered number.toNat (by omega))
  else .error (.zoneOutOfRange number)

/-- The zone of a number, with zero for the polar regions. -/
def ofNumber (number : Int) : Outcome Zone :=
  if number = 0 then .ok .polar else ofStrip number

/-- The number of a strip, zero for the rest. -/
def number : Zone → Nat
  | numbered n _ => n
  | _ => 0

/-- Whether the zone is one of the strips. -/
def isNumbered : Zone → Bool
  | numbered _ _ => true
  | _ => false

/-- The kinds of zones by name. -/
def kind : Zone → String
  | numbered _ _ => "numbered"
  | polar => "polar"
  | unknown => "unknown"

/-- The two digits of a strip. -/
def label? : Zone → Option String
  | numbered n _ => some (Decimal.padded 2 n)
  | _ => none

/-- A zone in print: the digits of a strip, the kind of the rest. -/
def text (z : Zone) : String := z.label?.getD z.kind

variable {α : Type} [Scalar α]

/-- Whether a quantity lies in a half-open span. -/
def within (low high x : α) : Bool := decide (low ≤ x) && decide (x < high)

/-- Whether a quantity lies strictly between two others. -/
def between (low high x : α) : Bool := decide (low < x) && decide (x < high)

/-- The number of the zone of a point, zero in the polar regions. Longitudes
off the globe give numbers off the range of strips. -/
def numberAt (lat lng : α) : Except Fault Int :=
  if between 84 90 lat || between (-90) (-80) lat then .ok 0
  -- Norway
  else if within 56 64 lat && within 3 12 lng then .ok 32
  -- Svalbard
  else if within 72 84 lat && within 0 9 lng then .ok 31
  else if within 72 84 lat && within 9 21 lng then .ok 33
  else if within 72 84 lat && within 21 33 lng then .ok 35
  else if within 72 84 lat && within 33 42 lng then .ok 37
  else (Scalar.floor? ((lng + 180) / 6)).map (· + 1)

/-- The zone of a point; unknown where the number of the point names none. -/
def ofPoint (lat lng : α) : Outcome Zone := do
  let n ← numberAt lat lng
  if 0 ≤ n ∧ n ≤ 60 then ofNumber n else return .unknown

end Zone

end MapSheets
