import MapSheets.Plane.Bounds

/-
The map frame on the canvas. Page space is in meters from the lower left
corner of the frame, upwards; the canvas is in pixels from its upper left
corner, downwards. A pixel box holds both corners of the frame on the canvas
and the meters in a pixel, and carries points from one to the other.
-/

namespace MapSheets

/-- The map frame on the canvas, with the gaps kept free for labels. -/
structure PixelBox (α : Type) where
  /-- The upper left corner. -/
  starting : Point α
  /-- The lower right corner. -/
  ending : Point α
  /-- The meters in a pixel. -/
  ground : α
  leftBuffer : α
  bottomBuffer : α
  rightBuffer : α
  topBuffer : α
  /-- How far labels along rows are moved down. -/
  rowOffset : α
  /-- How far labels along columns are moved right. -/
  colOffset : α

namespace PixelBox

variable {α : Type} [Scalar α]

/-- The gap between the frame and the labels outside. -/
def labelGap : α := 10

/-- The frame of a page with its upper left corner at a pixel. -/
def ofPage (x y pageWidth pageHeight ground buffer : α) : Except Fault (PixelBox α) := do
  let w ← Scalar.quotient? pageWidth ground
  let h ← Scalar.quotient? pageHeight ground
  return { starting := ⟨x, y⟩, ending := ⟨x + w, y + h⟩, ground
           leftBuffer := buffer, bottomBuffer := buffer, rightBuffer := buffer, topBuffer := buffer
           rowOffset := 0, colOffset := 0 }

/-- The width of the frame in pixels. -/
def width (b : PixelBox α) : α := b.ending.x - b.starting.x

/-- The height of the frame in pixels. -/
def height (b : PixelBox α) : α := b.ending.y - b.starting.y

/-- The frame as a box of pixels. -/
def bounds (b : PixelBox α) : Bounds α :=
  ⟨b.starting.x, b.ending.x, b.starting.y, b.ending.y⟩

/-- The pixel of a point of the page. -/
def pixel (b : PixelBox α) (p : Point α) : Point α :=
  ⟨b.starting.x + p.x / b.ground, b.ending.y - p.y / b.ground⟩

/-- The pixels of a segment of the page. -/
def pixels (b : PixelBox α) (s : Segment α) : Segment α :=
  ⟨b.pixel s.start, b.pixel s.finish⟩

end PixelBox

end MapSheets
