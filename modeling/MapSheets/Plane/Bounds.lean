import MapSheets.Failure
import MapSheets.Number.Exact

/-
The plane that sheets are laid out in: points, segments, and boxes with
sides along the axes. A box may be given with its sides exchanged; it then
holds no point.
-/

namespace MapSheets

/-- A point of the plane. -/
@[ext]
structure Point (α : Type) where
  x : α
  y : α

/-- A directed segment. -/
@[ext]
structure Segment (α : Type) where
  start : Point α
  finish : Point α

/-- The point halfway between two. -/
def Point.between {α : Type} [Scalar α] (p q : Point α) : Point α :=
  ⟨(p.x + q.x) / 2, (p.y + q.y) / 2⟩

section
variable {α : Type} [Exact α]

/-- A point with its exact coordinates; one that is not finite has none. -/
def Point.rational? (p : Point α) : Option (Point Rat) := do
  return ⟨← Exact.toRat? p.x, ← Exact.toRat? p.y⟩

/-- The point nearest to an exact one. -/
def Point.ofRational (p : Point Rat) : Point α := ⟨Exact.ofRat p.x, Exact.ofRat p.y⟩

/-- A segment with exact ends. -/
def Segment.rational? (s : Segment α) : Option (Segment Rat) := do
  return ⟨← s.start.rational?, ← s.finish.rational?⟩

/-- The segment between the points nearest to exact ends. -/
def Segment.ofRational (s : Segment Rat) : Segment α := ⟨.ofRational s.start, .ofRational s.finish⟩

end

/-- A box with sides along the axes. -/
structure Bounds (α : Type) where
  minX : α
  maxX : α
  minY : α
  maxY : α

namespace Bounds

/-- A box with its exact sides. -/
def rational? {α : Type} [Exact α] (b : Bounds α) : Option (Bounds Rat) := do
  return ⟨← Exact.toRat? b.minX, ← Exact.toRat? b.maxX, ← Exact.toRat? b.minY,
    ← Exact.toRat? b.maxY⟩

variable {α : Type} [Scalar α]

/-- The map frame of a page, in meters from its lower left corner. -/
def page (width height : α) : Bounds α := ⟨0, width, 0, height⟩

/-- The extent along the first axis. -/
def width (b : Bounds α) : α := b.maxX - b.minX

/-- The extent along the second axis. -/
def height (b : Bounds α) : α := b.maxY - b.minY

/-- Whether a point lies in the box or on its sides. -/
def contains (b : Bounds α) (p : Point α) : Bool :=
  decide (b.minX ≤ p.x) && decide (p.x ≤ b.maxX) && decide (b.minY ≤ p.y) && decide (p.y ≤ b.maxY)

/-- The box with every side moved outwards. -/
def expand (b : Bounds α) (margin : α) : Bounds α :=
  ⟨b.minX - margin, b.maxX + margin, b.minY - margin, b.maxY + margin⟩

/-- The least box around some points; without points there is none. -/
def around? : List (Point α) → Option (Bounds α)
  | [] => none
  | q :: rest =>
    some (rest.foldl (fun b r => ⟨Scalar.least b.minX r.x, Scalar.greatest b.maxX r.x,
      Scalar.least b.minY r.y, Scalar.greatest b.maxY r.y⟩) ⟨q.x, q.x, q.y, q.y⟩)

/-- Whether two closed boxes overlap. -/
def overlaps (a b : Bounds α) : Bool :=
  decide (a.minX ≤ b.maxX) && decide (b.minX ≤ a.maxX)
    && decide (a.minY ≤ b.maxY) && decide (b.minY ≤ a.maxY)

/-- The same box with its sides in order. -/
def ordered (b : Bounds α) : Bounds α :=
  ⟨Scalar.least b.minX b.maxX, Scalar.greatest b.minX b.maxX,
    Scalar.least b.minY b.maxY, Scalar.greatest b.minY b.maxY⟩

end Bounds

end MapSheets
