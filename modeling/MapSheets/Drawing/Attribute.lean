import MapSheets.Drawing.Color
import MapSheets.Drawing.Element
import MapSheets.Failure
import MapSheets.Text.Blank

/-
Attributes that a drawing may have. Some attributes take only values of a
kind: a length with or without a unit, a color, a name. An element with any
other value is refused before it is drawn. A number may stand for a length
even where it is infinite, but not among coordinates that are written out as
a list, as those of a text are.
-/

namespace MapSheets

/-- The kinds of values that attributes take. -/
inductive AttributeKind where
  /-- A number with or without a unit. -/
  | length
  /-- Lengths in a row, which are read from their text. -/
  | lengths
  | paint
  | name
  | anchor
  /-- A reference to another element. -/
  | reference
  deriving DecidableEq, Repr

namespace AttributeKind

/-- The kind of an attribute of an element; others take any value. -/
def ofName? (tag attributeName : String) : Option AttributeKind :=
  match attributeName with
  | "x" | "y" => if tag = "text" then some lengths else some length
  | "width" | "height" | "font-size" | "stroke-width" => some length
  | "stroke" | "fill" => some paint
  | "id" => some name
  | "text-anchor" => some anchor
  | "clip-path" => some reference
  | _ => none

-- ================================================================= lengths

/-- The units of lengths. -/
def units : List String := ["", "em", "ex", "px", "in", "cm", "mm", "pt", "pc", "%"]

/-- The text behind a sign, if one stands in front. -/
def afterSign : List Char → List Char
  | '+' :: rest | '-' :: rest => rest
  | cs => cs

/-- The text behind digits with an optional point among or before them, which
must end in a digit. -/
def afterDecimal? (cs : List Char) : Option (List Char) :=
  let (whole, rest) := cs.span Char.isDigit
  match rest with
  | '.' :: behind =>
    match behind.span Char.isDigit with
    | ([], _) => if whole.isEmpty then none else some rest
    | (_, left) => some left
  | _ => if whole.isEmpty then none else some rest

/-- The text behind a power of ten, if there is one. -/
def afterPower (cs : List Char) : List Char :=
  match cs with
  | c :: rest =>
    if c = 'e' ∨ c = 'E' then
      match (afterSign rest).span Char.isDigit with
      | ([], _) => cs
      | (_, left) => left
    else cs
  | [] => cs

/-- Whether a text is a number with or without a unit. -/
def isLength (s : String) : Bool :=
  match afterDecimal? (afterSign (Text.trimmed s.toList)) with
  | some rest => units.contains (String.ofList (afterPower rest))
  | none => false

-- =================================================================== names

/-- Whether a character may stand in a name. -/
def isNameChar (c : Char) : Bool := !(c ∈ [',', '(', ')', ' ', '\t', '\r', '\n'])

/-- Whether a text is a name. -/
def isName (s : String) : Bool :=
  let cs := Text.trimmed s.toList
  !cs.isEmpty && cs.all isNameChar

/-- The ends of a text that may stand at a point. -/
def anchors : List String := ["start", "middle", "end", "inherit"]

-- ================================================================== checks

/-- Whether a text is a value of a kind. -/
def acceptsText : AttributeKind → String → Bool
  | length, s => isLength s || s == "inherit"
  | lengths, s => isLength s
  | paint, s => Color.isPaint s
  | name, s => isName s
  | anchor, s => anchors.contains s
  | reference, s => Color.isReference s || s == "none" || s == "inherit"

variable {α : Type} [Scalar α] [NumberText α]

/-- Whether a value is of a kind. -/
def accepts (kind : AttributeKind) : AttributeValue α → Bool
  | .text s => kind.acceptsText s
  | .number x =>
    match kind with
    | length => true
    | lengths => Scalar.isFinite x
    | _ => kind.acceptsText (NumberText.shortest x)
  | .whole _ | .flag _ =>
    match kind with
    | length | lengths | name => true
    | _ => false

end AttributeKind

namespace Element

variable {α : Type} [Scalar α] [NumberText α]

/-- Refuses an element with an attribute whose value is of another kind. -/
def refuseInvalid (e : Element α) : Outcome Unit :=
  e.attributes.forM fun (name, value) =>
    match AttributeKind.ofName? e.tag name with
    | none => .ok ()
    | some kind =>
      if kind.accepts value then .ok () else .error (.attributeInvalid value.toText name e.tag)

/-- Elements of which none is refused. -/
def allValid (es : List (Element α)) : Outcome (List (Element α)) := do
  es.forM refuseInvalid
  return es

end Element

end MapSheets
