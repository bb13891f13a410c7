import MapSheets.Drawing.Element

/-
The written form of a drawing: elements in angle brackets, attributes in the
order of their names, the characters of the markup escaped.
-/

namespace MapSheets.Element

/-- A character of a text. -/
def escapeTextChar (c : Char) : List Char :=
  if c = '&' then "&amp;".toList
  else if c = '<' then "&lt;".toList
  else if c = '>' then "&gt;".toList
  else [c]

/-- A character of an attribute. -/
def escapeAttributeChar (c : Char) : List Char :=
  if c = '"' then "&quot;".toList
  else if c = '\n' then "&#10;".toList
  else if c = '\r' then "&#13;".toList
  else if c = '\t' then "&#09;".toList
  else escapeTextChar c

/-- A text between tags. -/
def escapeText (s : String) : String := String.ofList (s.toList.flatMap escapeTextChar)

/-- A text between the quotes of an attribute. -/
def escapeAttribute (s : String) : String := String.ofList (s.toList.flatMap escapeAttributeChar)

variable {α : Type} [NumberText α]

/-- The attributes of a tag that have a text, each with a blank in front. -/
def attributesText (attributes : List (String × AttributeValue α)) : String :=
  let sorted := (attributes.filter (·.2.isWritten)).mergeSort fun a b => a.1 ≤ b.1
  String.join (sorted.map fun (name, value) =>
    " " ++ name ++ "=\"" ++ escapeAttribute value.toText ++ "\"")

mutual
/-- The text of an element. -/
def markup : Element α → String
  | node tag attributes content children =>
    let opening := "<" ++ tag ++ attributesText attributes
    let inner := escapeText (content.getD "") ++ markups children
    if inner.isEmpty then opening ++ " />" else opening ++ ">" ++ inner ++ "</" ++ tag ++ ">"

/-- The texts of a list of elements, one after the other. -/
def markups : List (Element α) → String
  | [] => ""
  | e :: rest => markup e ++ markups rest
end

/-- The file of a drawing. -/
def document (e : Element α) : String :=
  "<?xml version=\"1.0\" encoding=\"utf-8\" ?>\n" ++ e.markup

end MapSheets.Element
