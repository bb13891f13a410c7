/-
The ways in which a calculation with numbers can end without one. Every
partial operation of the number modules answers with one of these causes,
so a caller can tell a division by zero from a logarithm of nothing.
-/

namespace MapSheets

/-- Why a calculation has no result. -/
inductive Fault where
  /-- Not a number was to become a whole number. -/
  | notANumber
  /-- An infinite quantity was to become a whole number. -/
  | infinite
  /-- The result is finite in the reals and too large to be written. -/
  | tooLarge
  /-- A whole number is too large for a quantity. -/
  | wholeTooLarge
  /-- A divisor is zero. -/
  | divisionByZero
  /-- A divisor whose remainder is asked for is zero. -/
  | remainderByZero
  /-- A function was asked for a value outside its domain. -/
  | outsideDomain
  /-- A text was to be read as a number and is not one. -/
  | unreadable (text : String)
  /-- A whole number is written with more digits than are read. -/
  | tooManyDigits (count : Nat)
  /-- A number was to be written with fewer places than none, or with too many. -/
  | placesOutOfRange (places : Int)
  deriving DecidableEq, Repr

namespace Fault

/-- What is said of a fault. -/
def message : Fault → String
  | notANumber => "cannot convert float NaN to integer"
  | infinite => "cannot convert float infinity to integer"
  | tooLarge => "math range error"
  | wholeTooLarge => "int too large to convert to float"
  | divisionByZero => "float division by zero"
  | remainderByZero => "integer modulo by zero"
  | outsideDomain => "math domain error"
  | unreadable text => "could not convert string to float: " ++ text
  | tooManyDigits count =>
    "Exceeds the limit (4300 digits) for integer string conversion: value has " ++ toString count
      ++ " digits; use sys.set_int_max_str_digits() to increase the limit"
  | placesOutOfRange places => "a number has no " ++ toString places ++ " places"

end Fault

end MapSheets
