import MapSheets.Json.Value
import MapSheets.Template.Number
import MapSheets.Text.Parts

/-
Templates with gaps. A gap stands in braces: the name of a value and a way
into it, then how the value is turned into text, then the layout of that text.
A doubled brace stands for itself. A layout may have gaps of its own. What is
wrong in a template shows only when everything in front of it is filled.
-/

namespace MapSheets.Template

/-- A gap as it is written. -/
structure Gap where
  /-- The name with the way into the value. -/
  name : List Char
  conversion : Option Char := none
  layout : List Char := []

/-- A piece of a template. -/
inductive Piece where
  | letter (c : Char)
  | gap (g : Gap)
  /-- The template cannot be read from here on. -/
  | broken (f : Failure)

-- ================================================================= reading

/-- The name of a gap up to the mark that ends it. Between square brackets no
mark ends it. -/
def name : Bool → List Char → Outcome (List Char × List Char)
  | _, [] => .ok ([], [])
  | true, c :: rest => do
    let (more, left) ← name (c != ']') rest
    return (c :: more, left)
  | false, c :: rest =>
    if c = '\x7b' then .error (.templateInvalid "unexpected '\x7b' in field name")
    else if c = '\x7d' || c = ':' || c = '!' then .ok ([], c :: rest)
    else do
      let (more, left) ← name (c = '[') rest
      return (c :: more, left)

/-- The brace of a gap is not closed behind its layout. -/
def unmatched : Failure := .templateInvalid "unmatched '\x7b' in format spec"

/-- The layout of a gap up to its closing brace, with some braces open. -/
def layout : Nat → List Char → Outcome (List Char × List Char)
  | _, [] => .error unmatched
  | count, c :: rest =>
    if c = '\x7d' && count = 0 then .ok ([], rest)
    else do
      let count := if c = '\x7b' then count + 1 else if c = '\x7d' then count - 1 else count
      let (more, left) ← layout count rest
      return (c :: more, left)

/-- Reads a gap behind its opening brace. -/
def readGap (cs : List Char) : Outcome (Gap × List Char) := do
  let (name, left) ← name false cs
  match left with
  | [] => throw (.templateInvalid "expected '\x7d' before end of string")
  | '!' :: [] =>
    throw (.templateInvalid "end of string while looking for conversion specifier")
  | '!' :: c :: '\x7d' :: rest => return ({ name, conversion := some c }, rest)
  | '!' :: c :: ':' :: rest =>
    let (layout, rest) ← layout 0 rest
    return ({ name, conversion := some c, layout }, rest)
  | ['!', _] => throw unmatched
  | '!' :: _ => throw (.templateInvalid "expected ':' after conversion specifier")
  | ':' :: rest =>
    let (layout, rest) ← layout 0 rest
    return ({ name, layout }, rest)
  | _ :: rest => return ({ name }, rest)

/-- A brace that has no partner. -/
def lone (brace : Char) : Failure :=
  .templateInvalid ("Single '" ++ brace.toString ++ "' encountered in format string")

/-- The pieces of a template that has no more characters than the count. -/
def piecesWithin : Nat → List Char → List Piece
  | 0, _ | _, [] => []
  | count + 1, c :: rest =>
    if c = '\x7b' then
      match rest with
      | [] => [.broken (lone c)]
      | '\x7b' :: rest => .letter c :: piecesWithin count rest
      | rest => match readGap rest with
        | .error f => [.broken f]
        | .ok (g, rest) => .gap g :: piecesWithin count rest
    else if c = '\x7d' then
      match rest with
      | '\x7d' :: rest => .letter c :: piecesWithin count rest
      | _ => [.broken (lone c)]
    else .letter c :: piecesWithin count rest

/-- The pieces of a template. -/
def pieces (cs : List Char) : List Piece := piecesWithin cs.length cs

-- ================================================================== values

/-- The place that a row of digits names. -/
def place? (cs : List Char) : Outcome (Option Nat) := do
  match ← Layout.count cs with
  | (n, []) => return n
  | _ => return none

/-- A part of a number by its name. Other values have no parts with names. -/
def namedPart (name : String) : Json → Outcome Json
  | v =>
    let number : Option (Json × Json) := match v with
      | .int n => some (.int n, .int 0)
      | .bool b => some (.int (if b then 1 else 0), .int 0)
      | .float x => some (.float x, .float 0)
      | _ => none
    let isReal := v matches .float _
    match name, number with
    | "real", some (self, _) => .ok self
    | "imag", some (_, nought) => .ok nought
    | "numerator", some (self, _) =>
      if isReal then .error (.partAbsent "'float' object has no attribute 'numerator'") else .ok self
    | "denominator", some _ =>
      if isReal then .error (.partAbsent "'float' object has no attribute 'denominator'")
      else .ok (.int 1)
    | _, _ =>
      .error (.partAbsent ("'" ++ v.kindName ++ "' object has no attribute '" ++ name ++ "'"))

/-- An element of a value by its place or its name. -/
def element (key : List Char) (v : Json) : Outcome Json := do
  let place ← place? key
  match v, place with
  | .str s, some n => match s.toList[n]? with
    | some c => return .str c.toString
    | none => throw (.indexAbsent "string index out of range")
  | .str _, none => throw (.wrongOperand "string indices must be integers, not 'str'")
  | .arr elements, some n => match elements[n]? with
    | some e => return e
    | none => throw (.indexAbsent "list index out of range")
  | .arr _, none => throw (.wrongOperand "list indices must be integers or slices, not str")
  | .obj _, some n => throw (.keyAbsent (toString n))
  | .obj fields, none => match fields.lookup (String.ofList key) with
    | some e => return e
    | none => throw (.keyAbsent (Text.quoted (String.ofList key)))
  | v, _ => throw (.wrongOperand ("'" ++ v.kindName ++ "' object is not subscriptable"))

/-- Whether a character begins a further step into a value. -/
def isStep (c : Char) : Bool := c == '.' || c == '['

/-- Goes the way into a value, of no more steps than the count. -/
def follow : Nat → List Char → Json → Outcome Json
  | 0, _, v | _, [], v => .ok v
  | count + 1, c :: rest, v => do
    let nothing : Failure := .templateInvalid "Empty attribute in format string"
    if c = '.' then
      let name := rest.takeWhile (!isStep ·)
      if name.isEmpty then throw nothing
      follow count (rest.drop name.length) (← namedPart (String.ofList name) v)
    else if c = '[' then
      let key := rest.takeWhile (· != ']')
      if key.length = rest.length then throw (.templateInvalid "Missing ']' in format string")
      if key.isEmpty then throw nothing
      follow count (rest.drop (key.length + 1)) (← element key v)
    else
      throw (.templateInvalid "Only '.' or '[' may follow ']' in format field specifier")

/-- The value of a gap. A gap without a name, or with a number for one, asks for
a value by its place, and there are none. -/
def valueOf (values : List (String × Json)) (name : List Char) : Outcome Json := do
  let first := name.takeWhile (!isStep ·)
  let absent (n : Nat) : Failure := .indexAbsent
    ("Replacement index " ++ toString n ++ " out of range for positional args tuple")
  if first.isEmpty then throw (absent 0)
  if let some n := ← place? first then throw (absent n)
  match values.lookup (String.ofList first) with
  | none => throw (.keyAbsent (Text.quoted (String.ofList first)))
  | some v => follow name.length (name.drop first.length) v

/-- A value as the text that a conversion makes of it. -/
def convert (conversion : Char) (v : Json) : Outcome Json :=
  match conversion with
  | 'r' => .ok (.str v.display)
  | 's' => .ok (.str v.plain)
  | 'a' => .ok (.str (Text.inAscii v.display))
  | c =>
    .error (.templateInvalid ("Unknown conversion specifier "
      ++ (if 32 < c.toNat && c.toNat < 127 then c.toString
        else "\\x" ++ String.ofList (Nat.toDigits 16 c.toNat))))

/-- A value in a layout. -/
def shown (layout : List Char) (v : Json) : Outcome (List Char) :=
  if layout.isEmpty then .ok v.plain.toList
  else match v with
    | .str s => do (← Layout.read "str" .left (some 's') layout).text s.toList
    | .int n => do (← Layout.read "int" .right (some 'd') layout).wholeOrReal "int" n
    | .bool b => do
      (← Layout.read "bool" .right (some 'd') layout).wholeOrReal "bool" (if b then 1 else 0)
    | .float x => do (← Layout.read "float" .right none layout).onlyReal x
    | v => .error (.wrongOperand
        ("unsupported format string passed to " ++ v.kindName ++ ".__format__"))

-- ================================================================= filling

/-- How deep gaps stand in the layouts of gaps. -/
def depthLimit : Nat := 2

/-- Fills the gaps of a template, nested no deeper than a limit. -/
def fillWithin (values : List (String × Json)) : Nat → List Char → Outcome (List Char)
  | 0, _ => .error (.templateInvalid "Max string recursion exceeded")
  | depth + 1, cs => do
    let parts ← (pieces cs).mapM fun
      | .letter c => return [c]
      | .broken f => throw f
      | .gap g => do
        let v ← valueOf values g.name
        let v ← match g.conversion with
          | some c => convert c v
          | none => pure v
        let layout ←
          if g.layout.contains '\x7b' then fillWithin values depth g.layout else pure g.layout
        shown layout v
    return parts.flatten

/-- Fills the gaps of a template. -/
def fill (values : List (String × Json)) (template : String) : Outcome String := do
  return String.ofList (← fillWithin values depthLimit template.toList)

end MapSheets.Template
