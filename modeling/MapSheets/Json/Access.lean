import MapSheets.Failure
import MapSheets.Json.Value
import MapSheets.Number.Reading

/-
Plain access to JSON values: the field of an object, the text of a text, with
something neutral where the value has another shape. It is meant for values
whose shape is known; what must be checked is matched on instead. Quantities
are checked here, since a whole number may be too large for one.
-/

namespace MapSheets

instance : Coe String Json := ⟨.str⟩
instance : Coe Int Json := ⟨.int⟩
instance : Coe Nat Json := ⟨fun n => .int n⟩
instance : Coe Bool Json := ⟨.bool⟩
instance : Coe (List Json) Json := ⟨.arr⟩
instance : Coe (List String) Json := ⟨fun texts => .arr (texts.map .str)⟩

namespace Json

/-- The fields of an object. -/
def fields : Json → List (String × Json)
  | obj fields => fields
  | _ => []

/-- A field of an object, null if it has none of that name. -/
def field (j : Json) (name : String) : Json := (j.fields.lookup name).getD null

/-- Whether an object has a field. -/
def has (j : Json) (name : String) : Bool := (j.fields.lookup name).isSome

/-- The elements of a list. -/
def list : Json → List Json
  | arr elements => elements
  | _ => []

/-- What a value holds, one after the other: the elements of a list, the
names of an object, the characters of a text. -/
def members : Json → Outcome (List Json)
  | arr elements => .ok elements
  | obj fields => .ok (fields.map fun (name, _) => str name)
  | str s => .ok (s.toList.map fun c => str c.toString)
  | v => .error (.wrongOperand ("'" ++ v.kindName ++ "' object is not iterable"))

/-- The characters of a text. -/
def text : Json → String
  | str s => s
  | _ => ""

/-- A number as a double; a text stands for the number that it writes. -/
def real : Json → Outcome Float
  | int n => Scalar.ofInt? n
  | float x => .ok x
  | bool b => .ok (if b then 1.0 else 0.0)
  | str s => (Reading.float? s).elim (.error (.fault (.unreadable s))) .ok
  | j => .error (.wrongOperand ("a number was expected, not " ++ j.kindName))

/-- A number as a whole one. -/
def whole : Json → Int
  | int n => n
  | float x => (Scalar.truncate? x).toOption.getD 0
  | bool b => b.toNat
  | _ => 0

/-- All numbers of a list. -/
def reals (j : Json) : Outcome (List Float) := j.list.mapM real

/-- All whole numbers of a list. -/
def wholes (j : Json) : List Int := j.list.map whole

/-- The two numbers of a pair. -/
def pair (j : Json) : Outcome (Float × Float) := do
  match ← j.reals with
  | [a, b] => return (a, b)
  | xs => throw (.countWrong 2 xs.length)

/-- The four numbers of a box. -/
def four (j : Json) : Outcome (Float × Float × Float × Float) := do
  match ← j.reals with
  | [a, b, c, d] => return (a, b, c, d)
  | xs => throw (.countWrong 4 xs.length)

/-- A value read in some way, unless it is null. -/
def option {β : Type} (read : Json → β) : Json → Option β
  | null => none
  | j => some (read j)

/-- A value read in some way that may fail, unless it is null. -/
def optionM {β : Type} (read : Json → Outcome β) : Json → Outcome (Option β)
  | null => .ok none
  | j => some <$> read j

/-- A field read in some way, with a default for null. -/
def fieldOr {β : Type} (j : Json) (name : String) (read : Json → β) (default : β) : β :=
  ((j.field name).option read).getD default

/-- A number under a name. -/
def realAt (j : Json) (name : String) : Outcome Float :=
  match j.fields.lookup name with
  | some v => v.real
  | none => .error (.keyAbsent name)

/-- A number under a name, with a default for null. -/
def realOr (j : Json) (name : String) (default : Float) : Outcome Float := do
  return (← (j.field name).optionM real).getD default

/-- A whole number under a name. -/
def wholeAt (j : Json) (name : String) : Int := (j.field name).whole

/-- A text under a name. -/
def textAt (j : Json) (name : String) : String := (j.field name).text

/-- A list under a name. -/
def listAt (j : Json) (name : String) : List Json := (j.field name).list

/-- Whether the value under a name counts as yes. -/
def flagAt (j : Json) (name : String) : Bool := (j.field name).isTruthy

/-- The form of a value that may be absent. -/
def ofOption {β : Type} (form : β → Json) : Option β → Json
  | none => null
  | some b => form b

/-- The list of the forms of values. -/
def ofList {β : Type} (form : β → Json) (values : List β) : Json := arr (values.map form)

/-- A value with all its texts and names changed. -/
def mapTexts (f : String → String) : Json → Json
  | str s => str (f s)
  | arr elements => arr (mapElements elements)
  | obj fields => obj (mapFields fields)
  | j => j
where
  /-- The elements of a list. -/
  mapElements : List Json → List Json
    | [] => []
    | j :: rest => mapTexts f j :: mapElements rest
  /-- The fields of an object. -/
  mapFields : List (String × Json) → List (String × Json)
    | [] => []
    | (n, j) :: rest => (f n, mapTexts f j) :: mapFields rest

end Json

end MapSheets
