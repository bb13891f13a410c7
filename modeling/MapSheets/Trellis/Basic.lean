import MapSheets.Cell.Basic
import MapSheets.Geodesy.Survey
import MapSheets.Plane.Bounds
import MapSheets.Trellis.Edge

/-
The trellis: the bars of the grid over the frame of a cell. A cell is a box
of longitude and latitude; in the grid of a zone it is a skewed quadrangle,
so bars are parallel neither to the frame nor among the families. The
corners are projected into one zone, every multiple of the spacing is placed
on the edges it crosses, and the bars are laid out on a page that is as wide
as the lower edge and as high as the left one.

A bar has two ends even if its value crosses only one of its edges; the
other end then lies outside the page and the bar is cut where it is drawn.
-/

namespace MapSheets

/-- One bar of the trellis. -/
structure Bar (α : Type) where
  /-- Its place in the family. -/
  index : Int
  /-- Its easting or northing. -/
  value : Int
  /-- The grid point on the edge it starts on. -/
  start : GridPoint α
  /-- The grid point on the edge it ends on. -/
  finish : GridPoint α
  /-- Where it lies on the page. -/
  line : Segment α

namespace Bar

/-- The length of a bar on the page. -/
def length {α : Type} [Scalar α] [Elementary α] (b : Bar α) : α :=
  Elementary.hypotenuse (b.line.finish.x - b.line.start.x) (b.line.finish.y - b.line.start.y)

end Bar

/-- The corners of a frame in one zone, and the bars between its edges. -/
structure Trellis (α : Type) where
  ellipsoid : Ellipsoid α
  spacing : Spacing
  zone : Int
  topLeft : GridPoint α
  topRight : GridPoint α
  bottomLeft : GridPoint α
  bottomRight : GridPoint α
  /-- Bars from the left edge to the right one. -/
  northing : Family α
  /-- Bars from the lower edge to the upper one. -/
  easting : Family α
  pageWidth : α
  pageHeight : α

namespace Segment

/-- Where the lines through two segments meet. -/
def meet {α : Type} [Scalar α] (a b : Segment α) : Outcome (Point α) :=
  let x₁ := a.start.x
  let y₁ := a.start.y
  let x₂ := a.finish.x
  let y₂ := a.finish.y
  let x₃ := b.start.x
  let y₃ := b.start.y
  let x₄ := b.finish.x
  let y₄ := b.finish.y
  let denominator := (x₁ - x₂) * (y₃ - y₄) - (y₁ - y₂) * (x₃ - x₄)
  if Scalar.isZero denominator then .error .barsParallel
  else
    let detA := x₁ * y₂ - y₁ * x₂
    let detB := x₃ * y₄ - y₃ * x₄
    .ok ⟨(detA * (x₃ - x₄) - (x₁ - x₂) * detB) / denominator,
      (detA * (y₃ - y₄) - (y₁ - y₂) * detB) / denominator⟩

end Segment

namespace Trellis

variable {α : Type} [Scalar α]

-- ================================================================== making

/-- The four corners of a frame in one zone. -/
structure Corners (α : Type) where
  topLeft : GridPoint α
  topRight : GridPoint α
  bottomLeft : GridPoint α
  bottomRight : GridPoint α

/-- The corners with one way to count northings: a frame that straddles the
equator counts all of them from the equator. -/
def Corners.inOneHemisphere (c : Corners α) : Corners α :=
  if c.topLeft.hemisphere = c.bottomLeft.hemisphere then c
  else ⟨c.topLeft.countedFromEquator, c.topRight.countedFromEquator,
    c.bottomLeft.countedFromEquator, c.bottomRight.countedFromEquator⟩

section
variable [NumberText α] [Elementary α]

/-- The trellis of projected corners that count northings in one way. -/
def ofCorners (ellipsoid : Ellipsoid α) (spacing : Spacing) (zone : Int) (c : Corners α) :
    Outcome (Trellis α) := do
  let left ← Edge.between c.bottomLeft.northing c.topLeft.northing
    (c.topLeft.easting - c.bottomLeft.easting) spacing
  let right ← Edge.between c.bottomRight.northing c.topRight.northing
    (c.topRight.easting - c.bottomRight.easting) spacing
  let bottom ← Edge.between c.bottomLeft.easting c.bottomRight.easting
    (c.bottomRight.northing - c.bottomLeft.northing) spacing
  let top ← Edge.between c.topLeft.easting c.topRight.easting
    (c.topRight.northing - c.topLeft.northing) spacing
  return {
    ellipsoid, spacing, zone
    topLeft := c.topLeft, topRight := c.topRight
    bottomLeft := c.bottomLeft, bottomRight := c.bottomRight
    northing := Family.between left right spacing
    easting := Family.between bottom top spacing
    pageWidth := bottom.length
    pageHeight := left.length }

/-- A point as messages show it. -/
def pointText (p : Point α) : String :=
  "(" ++ NumberText.shortest p.x ++ ", " ++ NumberText.shortest p.y ++ ")"

variable [Survey α]

/-- The corners of a frame in a zone. -/
def Corners.ofFrame (ellipsoid : Ellipsoid α) (zone : Int) (topLeft bottomRight : Point α) :
    Outcome (Corners α) := do
  let tl ← GridPoint.inZone ellipsoid zone topLeft.x topLeft.y
  let tr ← GridPoint.inZone ellipsoid zone bottomRight.x topLeft.y
  let bl ← GridPoint.inZone ellipsoid zone topLeft.x bottomRight.y
  let br ← GridPoint.inZone ellipsoid zone bottomRight.x bottomRight.y
  return ⟨tl, tr, bl, br⟩

/-- The trellis of a frame, given by its upper left and lower right corner as
longitude and latitude. Without a zone it is the one of the center. -/
def ofFrame (ellipsoid : Ellipsoid α) (spacing : Spacing) (zone : Option Int)
    (topLeft bottomRight : Point α) : Outcome (Trellis α) := do
  if ¬(topLeft.x < bottomRight.x ∧ bottomRight.y < topLeft.y) then
    throw (.frameInvalid (pointText topLeft) (pointText bottomRight))
  let zone ← match zone with
    | some z => pure z
    | none => Zone.numberAt ((topLeft.y + bottomRight.y) / 2) ((topLeft.x + bottomRight.x) / 2)
  if zone = 0 then throw (.polarFrame (pointText topLeft) (pointText bottomRight))
  let corners ← Corners.ofFrame ellipsoid zone topLeft bottomRight
  ofCorners ellipsoid spacing zone corners.inOneHemisphere

/-- The trellis of a cell's frame, in the zone of its center. -/
def ofCell (ellipsoid : Ellipsoid α) (spacing : Spacing) (c : Cell α) : Outcome (Trellis α) := do
  let topLeft ← c.northWestCorner
  let bottomRight ← c.southEastCorner
  ofFrame ellipsoid spacing none topLeft bottomRight

end

-- ==================================================================== bars

/-- Where the northing bar of a value lies on the page. -/
def northingLine (t : Trellis α) (v : α) : Segment α :=
  let left := t.northing.start
  let right := t.northing.finish
  ⟨⟨0, left.distanceTo v * t.pageHeight / left.length⟩,
    ⟨t.pageWidth, right.distanceTo v * t.pageHeight / right.length⟩⟩

/-- Where the easting bar of a value lies on the page. -/
def eastingLine (t : Trellis α) (v : α) : Segment α :=
  let bottom := t.easting.start
  let top := t.easting.finish
  ⟨⟨bottom.distanceTo v * t.pageWidth / bottom.length, 0⟩,
    ⟨top.distanceTo v * t.pageWidth / top.length, t.pageHeight⟩⟩

/-- The northing bar of an index, also of one outside the family. -/
def northingBar (t : Trellis α) (index : Int) : Bar α :=
  let value := t.northing.valueAt index
  let v : α := Scalar.ofInt value
  let left := t.northing.start
  let right := t.northing.finish
  { index, value
    start := { easting := left.crossAt v t.bottomLeft.easting t.topLeft.easting, northing := v
               zone := t.zone, hemisphere := t.bottomLeft.hemisphere }
    finish := { easting := right.crossAt v t.bottomRight.easting t.topRight.easting, northing := v
                zone := t.zone, hemisphere := t.bottomRight.hemisphere }
    line := t.northingLine v }

/-- The easting bar of an index, also of one outside the family. -/
def eastingBar (t : Trellis α) (index : Int) : Bar α :=
  let value := t.easting.valueAt index
  let v : α := Scalar.ofInt value
  let bottom := t.easting.start
  let top := t.easting.finish
  { index, value
    start := { easting := v, northing := bottom.crossAt v t.bottomLeft.northing t.bottomRight.northing
               zone := t.zone, hemisphere := t.bottomLeft.hemisphere }
    finish := { easting := v, northing := top.crossAt v t.topLeft.northing t.topRight.northing
                zone := t.zone, hemisphere := t.topLeft.hemisphere }
    line := t.eastingLine v }

/-- The northing bars from the bottom to the top. -/
def northingBars (t : Trellis α) : List (Bar α) :=
  (List.range t.northing.steps.toNat).map fun (i : Nat) => t.northingBar i

/-- The easting bars from the left to the right. -/
def eastingBars (t : Trellis α) : List (Bar α) :=
  (List.range t.easting.steps.toNat).map fun (i : Nat) => t.eastingBar i

/-- Shows every bar of a list to a visitor, in order, and counts them. A visit
that fails ends the round. -/
def visit {m : Type → Type} [Monad m] (visitor : Bar α → m Unit) (bars : List (Bar α)) : m Nat :=
  bars.foldlM (fun count bar => do visitor bar; return count + 1) 0

/-- Where an easting bar crosses a northing bar on the page. The indexes may
lie outside the families, and between two bars. -/
def crossing (t : Trellis α) (easting northing : Amount α) : Outcome (Point α) := do
  let e ← (t.easting.quantityAt? easting : Outcome α)
  let n ← (t.northing.quantityAt? northing : Outcome α)
  (t.eastingLine e).meet (t.northingLine n)

end Trellis

end MapSheets
