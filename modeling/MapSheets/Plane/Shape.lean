import MapSheets.Plane.Polygon

/-
Shapes: points, open lines and polygons taken together. A shape meets what
any of its parts meets, and reaches as far as all of them.
-/

namespace MapSheets

/-- Points, lines and polygons that are one thing. -/
structure Shape (α : Type) where
  points : List (Point α) := []
  /-- Lines, each by its points in order. -/
  lines : List (List (Point α)) := []
  areas : List (Polygon α) := []

namespace Shape

variable {α : Type}

/-- The shape of a polygon. -/
def ofPolygon (p : Polygon α) : Shape α := { areas := [p] }

/-- Two shapes as one. -/
def append (s t : Shape α) : Shape α :=
  ⟨s.points ++ t.points, s.lines ++ t.lines, s.areas ++ t.areas⟩

instance : Append (Shape α) := ⟨append⟩

/-- All points of all parts. -/
def vertices (s : Shape α) : List (Point α) :=
  s.points ++ s.lines.flatten ++ s.areas.flatMap (·.points)

/-- The shape with every point moved. -/
def mapPoints (f : Point α → Outcome (Point α)) (s : Shape α) : Outcome (Shape α) := do
  return ⟨← s.points.mapM f, ← s.lines.mapM (·.mapM f), ← s.areas.mapM (·.mapPoints f)⟩

/-- Whether a line and a closed box have a point in common. -/
def lineMeets [Exact α] (line : List (Point α)) (box : Bounds α) : Bool :=
  match line.mapM Point.rational?, box.rational? with
  | some points, some box =>
    (points.zip (points.drop 1)).any fun (a, b) => Polygon.sideMeets box ⟨a, b⟩
  | _, _ => false

variable [Scalar α]

/-- The least box around the shape; a shape without points has none. -/
def extent? (s : Shape α) : Option (Bounds α) := Bounds.around? s.vertices

/-- Whether the shape and a closed box have a point in common. -/
def meets [Exact α] (s : Shape α) (box : Bounds α) : Bool :=
  s.points.any box.contains || s.lines.any (lineMeets · box) || s.areas.any (·.meets box)

/-- Whether two points are at the same place. -/
def samePlace (p q : Point α) : Bool := Scalar.isZero (p.x - q.x) && Scalar.isZero (p.y - q.y)

/-- Whether a ring ends where it begins. There is nothing to a ring without
points, and one with points has three at least. -/
def isClosedRing (ring : List (Point α)) : Bool :=
  match ring.head?, ring.getLast? with
  | some p, some q => samePlace p q && 3 ≤ ring.length
  | _, _ => true

/-- Whether every ring is closed and every line goes somewhere. -/
def isComplete (s : Shape α) : Bool :=
  s.areas.all (fun p => p.rings.all isClosedRing) && s.lines.all (·.length ≠ 1)

end Shape

end MapSheets
