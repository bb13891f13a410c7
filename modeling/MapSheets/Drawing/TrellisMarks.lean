import MapSheets.Drawing.Attribute
import MapSheets.Plane.Clip
import MapSheets.Plane.PixelBox
import MapSheets.Trellis.Label

/-
What is drawn of a trellis. Bars are cut to the frame and carried to the
canvas; a label stands in the margin wherever a bar meets the frame, and
along chosen rows and columns inside it, halfway between two crossings.

Placed labels are values of their own, so where a label stands and what it
shows is settled before it becomes an element.
-/

namespace MapSheets

-- ===================================================================== bars

/-- What was drawn of bars: the lines, and how many they are. -/
structure DrawnBars (α : Type) where
  elements : List (Element α)
  count : Nat

section
variable {α : Type} [Scalar α] [Exact α]

/-- Draws segments of the page one after the other, each cut to what is
visible of it; a segment of which nothing is visible is passed over. -/
def drawBars (box : PixelBox α) (clip : Option (Bounds α)) (color : String)
    (width : AttributeValue α) : List (Segment α) → Outcome (DrawnBars α)
  | [] => return ⟨[], 0⟩
  | line :: rest => do
    let part ← line.clip clip
    let drawn ← drawBars box clip color width rest
    match part with
    | none => return drawn
    | some s =>
      return ⟨Element.line (box.pixels s) color width :: drawn.elements, drawn.count + 1⟩

/-- The elements of bars. -/
def barElements (box : PixelBox α) (clip : Option (Bounds α)) (lines : List (Segment α))
    (color : String) (width : AttributeValue α) : Outcome (List (Element α)) := do
  return (← drawBars box clip color width lines).elements

end

-- =================================================================== labels

/-- A coordinate label on the canvas. -/
structure PlacedLabel (α : Type) where
  label : CoordLabel
  shown : Shown
  position : Point α
  /-- Which part of the text stands at the position. -/
  anchor : String

namespace PlacedLabel

/-- The font size of the label digits. -/
def labelSize : Nat := 12

/-- The text of a font size. -/
def sizeText (n : Nat) : String := toString n ++ "px"

/-- The font size of the small pieces. -/
def pieceSize : Nat := 6

/-- How a piece is set: moved down or back up by whole pixels, and its size. -/
def setting : LabelPiece → Option Int × Nat
  | .leading => (none, pieceSize)
  | .label => (some 6, labelSize)
  | .trailing => (some (-6), pieceSize)
  | .unit => (none, pieceSize)
  | .side => (some 6, labelSize)

variable {α : Type}

/-- The element of a label; nothing if it shows no piece. -/
def element (p : PlacedLabel α) : Except Fault (Option (Element α)) :=
  if p.shown.isEmpty then .ok none
  else do
    let texts ← p.label.texts p.shown
    return some (Element.textAt p.position ""
      [("font-size", .text (sizeText labelSize)), ("text-anchor", .text p.anchor)]
      (texts.map fun (piece, text) =>
        let (down, size) := setting piece
        Element.span text down (sizeText size) "black"))

/-- The elements of labels, without those that show no piece. -/
def elements [Scalar α] [NumberText α] (labels : List (PlacedLabel α)) :
    Outcome (List (Element α)) := do
  let drawn ← (labels.mapM element : Except Fault (List (Option (Element α))))
  Element.allValid (drawn.filterMap id)

end PlacedLabel

/-- A side of the map frame. -/
inductive FrameSide where
  | bottom
  | top
  | left
  | right
  deriving DecidableEq, Repr

namespace FrameSide

variable {α : Type}

/-- The end of a bar at a side: bars start at the bottom and at the left. -/
def endOf : FrameSide → Segment α → Point α
  | bottom, s | left, s => s.start
  | top, s | right, s => s.finish

/-- How far along a side a point lies. -/
def along : FrameSide → Point α → α
  | bottom, p | top, p => p.x
  | left, p | right, p => p.y

/-- Which part of a label stands at its position. -/
def anchor : FrameSide → String
  | bottom | top => "middle"
  | left => "end"
  | right => "start"

/-- Where the label of a point of a side stands: outside the frame, level with
the point. -/
def labelPosition [Scalar α] (box : PixelBox α) (p : Point α) : FrameSide → Point α
  | bottom => ⟨(box.pixel p).x,
      box.ending.y + box.bottomBuffer + Scalar.ofInt PlacedLabel.labelSize⟩
  | top => ⟨(box.pixel p).x, box.starting.y - box.topBuffer⟩
  | left => ⟨box.starting.x - box.leftBuffer, (box.pixel p).y⟩
  | right => ⟨box.ending.x + box.rightBuffer, (box.pixel p).y⟩

end FrameSide

namespace Trellis

variable {α : Type} [Scalar α]

/-- The labels of a trellis: those in the margin and those inside the frame. -/
structure Labels (α : Type) where
  outer : List (PlacedLabel α)
  inner : List (PlacedLabel α)

/-- Whether a coordinate lies on a side of the frame, its ends included. -/
def onSide (length x : α) : Bool := decide (0 ≤ x) && decide (x ≤ length)

/-- The bars that run to a side, in the order of their indexes. -/
def barsAt (t : Trellis α) : FrameSide → List (Bar α)
  | .bottom | .top => t.eastingBars
  | .left | .right => t.northingBars

/-- The length of a side on the page. -/
def extent (t : Trellis α) : FrameSide → α
  | .bottom | .top => t.pageWidth
  | .left | .right => t.pageHeight

/-- The coordinate printed where a bar meets a side. -/
def coordLabel (t : Trellis α) (bar : Bar α) : FrameSide → CoordLabel
  | .bottom | .top => .ofEasting bar t.spacing
  | .left | .right => .ofNorthing bar t.spacing

/-- Whether a bar ends on a side. -/
def endsOn (t : Trellis α) (side : FrameSide) (bar : Bar α) : Bool :=
  onSide (t.extent side) (side.along (side.endOf bar.line))

/-- The label of a bar in the margin of a side, where its end lies on the side. -/
def outerLabel (t : Trellis α) (box : PixelBox α) (bar : Bar α) (side : FrameSide) :
    Except Fault (Option (PlacedLabel α)) := do
  let label := t.coordLabel bar side
  let shown ← label.shownAt bar.index
  return if t.endsOn side bar then
    some ⟨label, shown, side.labelPosition box (side.endOf bar.line), side.anchor⟩ else none

/-- The labels of a bar in the margins of its sides. -/
def outerLabels (t : Trellis α) (box : PixelBox α) (sides : List FrameSide) (bar : Bar α) :
    Except Fault (List (PlacedLabel α)) := do
  return (← sides.mapM (t.outerLabel box bar)).filterMap id

/-- The label on an easting bar halfway between a northing bar and the one
before it. -/
def rowLabel (t : Trellis α) (box : PixelBox α) (bar : Bar α) (row : Amount α) :
    Outcome (PlacedLabel α) := do
  let p ← t.crossing (.whole bar.index) row.pred
  let q ← t.crossing (.whole bar.index) row
  let pixel := box.pixel (p.between q)
  return ⟨CoordLabel.ofEasting bar t.spacing, [.label], ⟨pixel.x + box.colOffset, pixel.y⟩, "middle"⟩

/-- The label on a northing bar halfway between an easting bar and the one
before it. -/
def colLabel (t : Trellis α) (box : PixelBox α) (bar : Bar α) (col : Amount α) :
    Outcome (PlacedLabel α) := do
  let p ← t.crossing col.pred (.whole bar.index)
  let q ← t.crossing col (.whole bar.index)
  let pixel := box.pixel (p.between q)
  return ⟨CoordLabel.ofNorthing bar t.spacing, [.label], ⟨pixel.x, pixel.y + box.rowOffset⟩, "middle"⟩

/-- The indexes that labels are put along inside the frame. What was given
for them may turn out to be no list, or to hold something that is no index;
that shows at the first bar. -/
abbrev LabelIndexes (α : Type) := Outcome (List (Outcome (Amount α)))

/-- All labels of a trellis: easting bars first, each family bar by bar. -/
def labels (t : Trellis α) (box : PixelBox α) (rows cols : LabelIndexes α) :
    Outcome (Labels α) := do
  let eastings ← t.eastingBars.mapM fun bar => do
    let outer ← t.outerLabels box [.bottom, .top] bar
    let inner ← (← rows).mapM fun row => do t.rowLabel box bar (← row)
    return Labels.mk outer inner
  let northings ← t.northingBars.mapM fun bar => do
    let outer ← t.outerLabels box [.left, .right] bar
    let inner ← (← cols).mapM fun col => do t.colLabel box bar (← col)
    return Labels.mk outer inner
  let all := eastings ++ northings
  return ⟨all.flatMap (·.outer), all.flatMap (·.inner)⟩

end Trellis

end MapSheets
