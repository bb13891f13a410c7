import MapSheets.Number.Decimal
import MapSheets.Text.Blank
import MapSheets.Text.Case
import MapSheets.Text.Digit

/-
Numbers read from text. A numeral is a row of decimal digits in which single
low lines may stand between two digits. Blanks around a number do not count.
The readers answer with the rest of the text, so a number is accepted when
nothing is left. A whole number is read from a limited count of digits, zeros
in front included.
-/

namespace MapSheets

namespace Decimal

/-- The double nearest to a decimal. Exponents far outside the range of
doubles are settled by the count of digits alone. -/
def toFloat (negative : Bool) (d : Decimal) : Float :=
  let top : Int := digitCount d.digits + d.exponent
  let size :=
    if d.digits = 0 ∨ top < -330 then 0.0
    else if 320 < top then 1.0 / 0.0
    else Float.ofScientific d.digits (d.exponent < 0) d.exponent.natAbs
  if negative then -size else size

end Decimal

namespace Reading

/-- Further digits of a numeral, each with a low line in front or without. -/
def moreDigits : List Char → List Nat × List Char
  | [] => ([], [])
  | '_' :: c :: rest =>
    match Text.digitValue? c with
    | none => ([], '_' :: c :: rest)
    | some d => let (ds, left) := moreDigits rest; (d :: ds, left)
  | c :: rest =>
    match Text.digitValue? c with
    | none => ([], c :: rest)
    | some d => let (ds, left) := moreDigits rest; (d :: ds, left)

/-- The digits at the start of a text. -/
def numeral : List Char → List Nat × List Char
  | [] => ([], [])
  | c :: rest =>
    match Text.digitValue? c with
    | none => ([], c :: rest)
    | some d => let (ds, left) := moreDigits rest; (d :: ds, left)

/-- A sign, if one stands in front; whether it is a minus. -/
def sign : List Char → Bool × List Char
  | '-' :: rest => (true, rest)
  | '+' :: rest => (false, rest)
  | rest => (false, rest)

/-- Reads a whole number in decimal digits. -/
def int? (s : String) : Option Int :=
  let (negative, rest) := sign (Text.stripped Text.isNumberBlank s.toList)
  match numeral rest with
  | ([], _) => none
  | (ds, []) =>
    if Text.mostDigits < ds.length then none
    else some (if negative then -(Text.numeral ds : Int) else Text.numeral ds)
  | (_, _ :: _) => none

/-- The power of ten after a mark `e`, if the text has one. -/
def power : List Char → Option (Int × List Char)
  | c :: rest =>
    if c = 'e' ∨ c = 'E' then
      let (negative, rest) := sign rest
      match numeral rest with
      | ([], _) => none
      | (ds, left) => some (if negative then -(Text.numeral ds : Int) else Text.numeral ds, left)
    else some (0, c :: rest)
  | [] => some (0, [])

/-- Digits with an optional point among them and an optional power of ten. -/
def unsigned? (cs : List Char) : Option Decimal :=
  let (whole, rest) := numeral cs
  let (places, rest) :=
    match rest with
    | '.' :: after => numeral after
    | _ => ([], rest)
  if whole.isEmpty && places.isEmpty then none
  else
    match power rest with
    | some (k, []) => some ⟨Text.numeral (whole ++ places), k - places.length⟩
    | _ => none

/-- Reads a double: a decimal, an infinity or the undefined number. -/
def float? (s : String) : Option Float :=
  let (negative, rest) := sign (Text.stripped Text.isNumberBlank s.toList)
  let word := Text.lower (String.ofList rest)
  if word = "inf" ∨ word = "infinity" then some (if negative then -(1.0 / 0.0) else 1.0 / 0.0)
  else if word = "nan" then some (0.0 / 0.0)
  else (unsigned? rest).map (·.toFloat negative)

end Reading

/-- A field of measure whose quantities can be read from text. -/
class NumberReading (α : Type) where
  /-- The quantity that a text writes. -/
  read? : String → Option α

instance : NumberReading Float := ⟨Reading.float?⟩

end MapSheets
