import MapSheets.Entries
import MapSheets.Number.Decimal
import MapSheets.Text.Quoted

/-
JSON values. Whole numbers and numbers with a point are kept apart, since
they are printed differently, and an object is a list of fields in the order
in which their names came up first.
-/

namespace MapSheets

/-- A JSON value. -/
inductive Json where
  | null
  | bool (b : Bool)
  | int (n : Int)
  | float (x : Float)
  | str (s : String)
  | arr (elements : List Json)
  | obj (fields : List (String × Json))
  deriving Inhabited

namespace Json

/-- The value of a field, if the list has one of that name. -/
def find? (name : String) (fields : List (String × Json)) : Option Json :=
  fields.lookup name

/-- What kind of value it is, as messages name it. -/
def kindName : Json → String
  | null => "NoneType"
  | bool _ => "bool"
  | int _ => "int"
  | float _ => "float"
  | str _ => "str"
  | arr _ => "list"
  | obj _ => "dict"

mutual
/-- A value as messages show it inside another one: texts are quoted. -/
def display : Json → String
  | null => "None"
  | bool true => "True"
  | bool false => "False"
  | int n => toString n
  | float x => Decimal.plainStyle.text x
  | str s => Text.quoted s
  | arr elements => "[" ++ ", ".intercalate (displayElements elements) ++ "]"
  | obj fields => "\x7b" ++ ", ".intercalate (displayFields fields) ++ "\x7d"

/-- The elements of a list as messages show them. -/
def displayElements : List Json → List String
  | [] => []
  | v :: rest => display v :: displayElements rest

/-- The fields of an object as messages show them. -/
def displayFields : List (String × Json) → List String
  | [] => []
  | (n, v) :: rest => (Text.quoted n ++ ": " ++ display v) :: displayFields rest
end

/-- A value as a message shows it on its own: a text stands without quotes. -/
def plain : Json → String
  | str s => s
  | v => display v

/-- Whether a value counts as yes: all do but nothing, zero and what is empty. -/
def isTruthy : Json → Bool
  | null => false
  | bool b => b
  | int n => n != 0
  | float x => !Scalar.isZero x
  | str s => !s.isEmpty
  | arr elements => !elements.isEmpty
  | obj fields => !fields.isEmpty

end Json

end MapSheets
