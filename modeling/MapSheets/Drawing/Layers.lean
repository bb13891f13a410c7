import MapSheets.Drawing.Attribute
import MapSheets.Number.Exact

/-
Layers of a drawing. A layer is a named group with a height in the stack.
Layers inside the map frame end up in one group that is cut to the frame;
margin layers are added after it, uncut. Within each of the two the lower
layer comes first, and of equally high ones the one registered earlier.
-/

namespace MapSheets

/-- A layer and what has been drawn into it. -/
structure Layer (α : Type) where
  id : String
  zOrder : Rat
  inFrame : Bool
  visible : Bool
  content : List (Element α)

namespace Layer

variable {α : Type}

/-- The group of a layer. -/
def group (l : Layer α) : Element α :=
  Element.group l.id (if l.visible then [] else [("visibility", .text "hidden")]) l.content

end Layer

/-- The layers of a drawing in the order of their registration. -/
structure Layers (α : Type) where
  entries : List (Layer α)

namespace Layers

variable {α : Type}

/-- No layers. -/
def empty : Layers α := ⟨[]⟩

/-- Whether a layer of a name is registered. -/
def contains (ls : Layers α) (id : String) : Bool := ls.entries.any (·.id == id)

/-- Adds an empty layer; a name can be given once, and must be one. -/
def register (ls : Layers α) (id : String) (zOrder : Rat) (inFrame visible : Bool) :
    Outcome (Layers α) :=
  if ls.contains id then .error (.layerTaken id)
  else if !AttributeKind.isName id then .error (.attributeInvalid id "id" "g")
  else .ok ⟨ls.entries ++ [⟨id, zOrder, inFrame, visible, []⟩]⟩

/-- Draws into a layer, after what it holds. -/
def draw (ls : Layers α) (id : String) (elements : List (Element α)) : Layers α :=
  ⟨ls.entries.map fun l => if l.id = id then { l with content := l.content ++ elements } else l⟩

/-- The layers from the lowest to the highest: all, or those inside the frame,
or those in the margin. -/
def stacked (ls : Layers α) (inFrame : Option Bool) : List (Layer α) :=
  (ls.entries.filter fun l => inFrame.isNone || inFrame == some l.inFrame).mergeSort
    fun a b => a.zOrder ≤ b.zOrder

/-- The group of the layers inside the frame. -/
def frameGroup (ls : Layers α) (frameId : String) (clipPath : String) : Element α :=
  Element.group frameId (if clipPath.isEmpty then [] else [("clip-path", .text clipPath)])
    ((ls.stacked (some true)).map Layer.group)

/-- What is added to the drawing: the frame group, then the margin layers. -/
def assemble (ls : Layers α) (frameId clipPath : String) : Outcome (List (Element α)) :=
  if !AttributeKind.isName frameId then .error (.attributeInvalid frameId "id" "g")
  else if clipPath ≠ "" ∧ !AttributeKind.reference.acceptsText clipPath then
    .error (.attributeInvalid clipPath "clip-path" "g")
  else .ok (ls.frameGroup frameId clipPath :: (ls.stacked (some false)).map Layer.group)

end Layers

end MapSheets
