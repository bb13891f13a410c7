import MapSheets.Failure
import MapSheets.Number.Decimal
import MapSheets.Number.Scalar

/-
Degrees, minutes and seconds. A decimal coordinate is split into a whole
number of degrees, a whole number of minutes and seconds with a fraction;
none of the three is negative, and a letter carries the sign.
-/

namespace MapSheets

/-- A coordinate in degrees, minutes and seconds with the letter of its side. -/
structure Dms (α : Type) where
  degree : Int
  minute : Int
  second : α
  hemisphere : String

namespace Dms

variable {α : Type} [Scalar α]

/-- Degrees, minutes and seconds of the distance from zero. -/
def split (value : α) : Except Fault (Nat × Nat × α) := do
  let whole ← Scalar.truncate? value
  let minutes := 60 * (value - Scalar.ofInt whole)
  let minute ← Scalar.truncate? minutes
  let second := 60 * (minutes - Scalar.ofInt minute)
  return (whole.natAbs, minute.natAbs, Scalar.magnitude second)

/-- A coordinate with the letter for its sign; zero counts as positive. -/
def ofDecimal (positive negative : String) (value : α) : Except Fault (Dms α) := do
  let (degree, minute, second) ← split value
  return ⟨degree, minute, second, if value < 0 then negative else positive⟩

/-- A latitude. -/
def ofLat : α → Except Fault (Dms α) := ofDecimal "N" "S"

/-- A longitude. -/
def ofLng : α → Except Fault (Dms α) := ofDecimal "E" "W"

/-- The signed decimal degrees. -/
def toDecimal (d : Dms α) : Except Fault α := do
  let degree : α ← Scalar.ofInt? d.degree
  let minutes : α ← Scalar.ratio? d.minute 60
  let value := degree + minutes + d.second / 3600
  return if d.hemisphere = "S" ∨ d.hemisphere = "W" then -value else value

/-- The printed coordinate with a count of places of the seconds, six if none
are asked for. -/
def text [NumberText α] (d : Dms α) (places : Nat) : String :=
  toString d.degree ++ "°" ++ toString d.minute ++ "'"
    ++ NumberText.fixed (if places = 0 then 6 else places) d.second ++ "\"" ++ d.hemisphere

/-- The printed coordinate with a count of places that may be no count. -/
def text? [NumberText α] (d : Dms α) (places : Int) : Except Fault String :=
  if places < 0 ∨ Decimal.mostPlaces < places then .error (.placesOutOfRange places)
  else .ok (d.text places.toNat)

end Dms

end MapSheets
