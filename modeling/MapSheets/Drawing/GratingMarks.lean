import MapSheets.Drawing.Attribute
import MapSheets.Grating.Basic
import MapSheets.Plane.PixelBox

/-
What is drawn of a grating: its lines, and the label of every cell at the
center of the cell.
-/

namespace MapSheets

variable {α : Type} [Scalar α]

/-- The color of gratings. -/
def gratingColor : String := "#555555"

/-- The lines of a grating on the canvas. -/
def Grating.lineElements (g : Grating α) (box : PixelBox α) (color : String)
    (width : AttributeValue α) : List (Element α) :=
  g.lines.map fun s => Element.line (box.pixels s) color width

/-- The labels of a grating on the canvas. -/
def Grating.labelElements (g : Grating α) (box : PixelBox α) (color : String)
    (size : AttributeValue α) : List (Element α) :=
  g.centers.map fun (label, p) => Element.textAt (box.pixel p) label
    [("text-anchor", .text "middle"), ("dominant-baseline", .text "middle"), ("font-size", size),
     ("fill", .text color), ("font-family", .text "sans-serif"),
     ("opacity", .number (Scalar.ratio 6 10))] []

/-- What is drawn of a grating. -/
structure GratingMarks (α : Type) where
  lines : List (Element α)
  labels : List (Element α)

/-- The lines and the labels of a grating on the canvas. A label is refused whose
place cannot be written. -/
def Grating.marks [NumberText α] (g : Grating α) (box : PixelBox α) (color : String)
    (width size : AttributeValue α) : Outcome (GratingMarks α) := do
  let labels ← Element.allValid (g.labelElements box color size)
  return { lines := g.lineElements box color width, labels }

/-- The outline of the map frame. -/
def frameElement (box : PixelBox α) (color : String) (width : AttributeValue α) : Element α :=
  Element.rect (.number box.starting.x) (.number box.starting.y) (.number box.width)
    (.number box.height)
    [("fill", .text "none"), ("stroke", .text color), ("stroke-width", width)]

end MapSheets
