import MapSheets.Number.Decimal
import MapSheets.Plane.Bounds

/-
Drawings as trees of elements. An element has a tag, attributes, a text of
its own or none, and the elements inside it. Lengths stay numbers until the
drawing is written, so what is drawn where can be read off the tree.
-/

namespace MapSheets

/-- The value of an attribute. -/
inductive AttributeValue (α : Type) where
  | text (s : String)
  | number (x : α)
  | whole (n : Int)
  | flag (b : Bool)

/-- The text of an attribute. -/
def AttributeValue.toText {α : Type} [NumberText α] : AttributeValue α → String
  | text s => s
  | number x => NumberText.shortest x
  | whole n => toString n
  | flag b => if b then "True" else "False"

/-- Whether an attribute is written; one with an empty text is left out. -/
def AttributeValue.isWritten {α : Type} [NumberText α] (v : AttributeValue α) : Bool :=
  !v.toText.isEmpty

/-- An element of a drawing. -/
inductive Element (α : Type) where
  | node (tag : String) (attributes : List (String × AttributeValue α))
      (content : Option String) (children : List (Element α))

namespace Element

variable {α : Type}

/-- The tag of an element. -/
def tag : Element α → String
  | node t _ _ _ => t

/-- The attributes of an element. -/
def attributes : Element α → List (String × AttributeValue α)
  | node _ as _ _ => as

/-- The text of an element, none for elements that hold no text. -/
def content : Element α → Option String
  | node _ _ c _ => c

/-- The elements inside. -/
def children : Element α → List (Element α)
  | node _ _ _ cs => cs

/-- The text of an attribute that is a text. -/
def textAttribute? (e : Element α) (name : String) : Option String :=
  match e.attributes.find? (·.1 == name) with
  | some (_, .text s) => some s
  | _ => none

/-- The name of an element, empty if it has none. -/
def id (e : Element α) : String := (e.textAttribute? "id").getD ""

mutual
/-- An element and all inside it, in document order. -/
def all : Element α → List (Element α)
  | node tag attributes content children =>
    node tag attributes content children :: allOf children

/-- Elements and all inside them, in document order. -/
def allOf : List (Element α) → List (Element α)
  | [] => []
  | e :: rest => all e ++ allOf rest
end

-- ================================================================ elements

/-- A group of elements with a name. -/
def group (id : String) (extra : List (String × AttributeValue α))
    (children : List (Element α)) : Element α :=
  node "g" (("id", .text id) :: extra) none children

/-- A line between two points of the canvas. -/
def line (s : Segment α) (stroke : String) (width : AttributeValue α) : Element α :=
  node "line" [("x1", .number s.start.x), ("y1", .number s.start.y), ("x2", .number s.finish.x),
    ("y2", .number s.finish.y), ("stroke", .text stroke), ("stroke-width", width)] none []

/-- A text at a point of the canvas. -/
def textAt (p : Point α) (content : String) (extra : List (String × AttributeValue α))
    (spans : List (Element α)) : Element α :=
  node "text" (("x", .number p.x) :: ("y", .number p.y) :: extra) (some content) spans

/-- A run of text inside a text, moved by whole pixels down the page if asked. -/
def span (content : String) (down : Option Int) (size fill : String) : Element α :=
  node "tspan" ((down.map fun d => ("dy", AttributeValue.whole d)).toList
    ++ [("font-size", .text size), ("fill", .text fill)]) (some content) []

/-- A rectangle. -/
def rect (x y width height : AttributeValue α) (extra : List (String × AttributeValue α)) :
    Element α :=
  node "rect" (("x", x) :: ("y", y) :: ("width", width) :: ("height", height) :: extra) none []

end Element

end MapSheets
