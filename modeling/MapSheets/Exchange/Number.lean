import MapSheets.Json.Access
import MapSheets.Number.Decimal

/-
Numbers in exchange. JSON has no exact doubles, so a double is told as text,
in one of three forms: the shortest text that reads back, a count of places,
or ten significant digits. Rounding away a negative number leaves no sign.
-/

namespace MapSheets.Exchange

/-- Drops the sign of a text that shows only zeros. -/
def unsigned (s : String) : String :=
  if s.startsWith "-" && s.all fun c => c == '-' || c == '0' || c == '.' then (s.drop 1).toString
  else s

/-- The shortest text that reads back. -/
def exact (x : Float) : Json := Decimal.plainStyle.text x

/-- The text with a count of places. -/
def fixed (places : Nat) (x : Float) : Json := unsigned (Decimal.fixed places x)

/-- The text with ten significant digits. -/
def significant (x : Float) : Json :=
  let s := Decimal.scientific 9 x
  if s.startsWith "-0.000000000e" then (s.drop 1).toString else s

/-- A list of numbers in a form. -/
def numbers (form : Float → Json) (xs : List Float) : Json := Json.ofList form xs

/-- Reads whole numbers that places along an axis are counted by; one too large
for a quantity is refused. -/
def readPlaces (j : Json) : Outcome (List Int) :=
  j.wholes.mapM fun n => do
    let _ ← (Scalar.ofInt? n : Outcome Float)
    return n

/-- A value with the shortest texts for its fractional numbers. -/
def exactly : Json → Json
  | .float x => exact x
  | .arr elements => .arr (exactElements elements)
  | .obj fields => .obj (exactFields fields)
  | j => j
where
  /-- The elements of a list. -/
  exactElements : List Json → List Json
    | [] => []
    | j :: rest => exactly j :: exactElements rest
  /-- The fields of an object. -/
  exactFields : List (String × Json) → List (String × Json)
    | [] => []
    | (n, j) :: rest => (n, exactly j) :: exactFields rest

end MapSheets.Exchange
