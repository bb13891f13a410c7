import MapSheets.Plane.Clip

/-
Polygons as closed regions. A polygon is a list of rings; a point that no
ring passes through lies inside if a ray from it crosses the rings an odd
number of times. What touches the border meets the polygon. All tests are
made over exact rationals.
-/

namespace MapSheets

/-- A region bounded by closed rings of points. The last point of a ring is
joined to the first. -/
structure Polygon (α : Type) where
  rings : List (List (Point α))

namespace Polygon

-- ====================================================== exact regions

/-- The sides of a ring. -/
def sides {α : Type} (ring : List (Point α)) : List (Segment α) :=
  match ring with
  | [] => []
  | p :: rest => (ring.zip (rest ++ [p])).map fun (a, b) => ⟨a, b⟩

/-- Whether a segment and a closed box have a point in common. -/
def sideMeets (box : Bounds Rat) (s : Segment Rat) : Bool :=
  match Segment.spanOf s.start.x (s.finish.x - s.start.x) box.minX box.maxX,
    Segment.spanOf s.start.y (s.finish.y - s.start.y) box.minY box.maxY with
  | some (x₀, x₁), some (y₀, y₁) =>
    decide (Scalar.greatest 0 (Scalar.greatest x₀ y₀) ≤ Scalar.least 1 (Scalar.least x₁ y₁))
  | _, _ => false

/-- Whether a ray from a point along the first axis crosses a segment. -/
def crosses (p : Point Rat) (s : Segment Rat) : Bool :=
  (decide (p.y < s.start.y) != decide (p.y < s.finish.y))
    && decide (p.x < s.start.x
        + (p.y - s.start.y) / (s.finish.y - s.start.y) * (s.finish.x - s.start.x))

/-- Whether a point off the border lies inside. -/
def surrounds (sides : List (Segment Rat)) (p : Point Rat) : Bool :=
  (sides.filter (crosses p)).length % 2 == 1

/-- Whether a region and a closed box have a point in common: a side enters
the box, or the box lies inside. -/
def regionMeets (sides : List (Segment Rat)) (box : Bounds Rat) : Bool :=
  sides.any (sideMeets box) || surrounds sides ⟨box.minX, box.minY⟩

-- ========================================================== polygons

variable {α : Type}

/-- All points of the rings. -/
def points (p : Polygon α) : List (Point α) := p.rings.flatten

section
variable [Exact α]

/-- The sides of all rings, exactly. -/
def exactSides? (p : Polygon α) : Option (List (Segment Rat)) := do
  let rings ← p.rings.mapM fun ring => ring.mapM Point.rational?
  return rings.flatMap sides

/-- Whether the polygon and a closed box have a point in common. What is not
finite meets nothing. -/
def meets (p : Polygon α) (box : Bounds α) : Bool :=
  match p.exactSides?, box.rational? with
  | some sides, some box => regionMeets sides box
  | _, _ => false

end

variable [Scalar α]

/-- The polygon of a box. -/
def ofBounds (b : Bounds α) : Polygon α :=
  ⟨[[⟨b.maxX, b.minY⟩, ⟨b.maxX, b.maxY⟩, ⟨b.minX, b.maxY⟩, ⟨b.minX, b.minY⟩]]⟩

/-- The polygon with every point moved. -/
def mapPoints (f : Point α → Outcome (Point α)) (p : Polygon α) : Outcome (Polygon α) := do
  return ⟨← p.rings.mapM fun ring => ring.mapM f⟩

end Polygon

end MapSheets
