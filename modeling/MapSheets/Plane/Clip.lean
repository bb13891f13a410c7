import MapSheets.Plane.Bounds

/-
Segments cut to a box. A segment is the points `start + t * (finish - start)`
for `t` from zero to one; each pair of sides leaves a span of `t`, and the
part inside the box is the common span. A common span of one point leaves
nothing to draw. The part is found exactly, and its ends are rounded once.
-/

namespace MapSheets.Segment

variable {α : Type} [Scalar α]

/-- The values of the parameter at which a coordinate that begins at `start`
and grows by `delta` lies between two limits; `none` if there are none. A
coordinate that does not grow leaves the parameter free. -/
def spanOf (start delta low high : α) : Option (α × α) :=
  if Scalar.isZero delta then
    if low ≤ start ∧ start ≤ high then some (0, 1) else none
  else
    let a := (low - start) / delta
    let b := (high - start) / delta
    some (Scalar.least a b, Scalar.greatest a b)

/-- The point of a parameter; the ends are the ends themselves. -/
def atParameter (s : Segment α) (t : α) : Point α :=
  if t ≤ 0 then s.start
  else if 1 ≤ t then s.finish
  else ⟨s.start.x + t * (s.finish.x - s.start.x), s.start.y + t * (s.finish.y - s.start.y)⟩

/-- The part of a segment inside a box whose sides are in order. -/
def inside (s : Segment α) (b : Bounds α) : Option (Segment α) := do
  let (x₀, x₁) ← spanOf s.start.x (s.finish.x - s.start.x) b.minX b.maxX
  let (y₀, y₁) ← spanOf s.start.y (s.finish.y - s.start.y) b.minY b.maxY
  let enter := Scalar.greatest 0 (Scalar.greatest x₀ y₀)
  let leave := Scalar.least 1 (Scalar.least x₁ y₁)
  if enter < leave then some ⟨s.atParameter enter, s.atParameter leave⟩ else none

/-- Whether a segment is a single point. -/
def isPoint (s : Segment α) : Bool :=
  Scalar.isZero (s.finish.x - s.start.x) && Scalar.isZero (s.finish.y - s.start.y)

/-- The part of an exact segment inside a box. A box without area and a segment
without length have no such part. -/
def part (s : Segment Rat) (b : Bounds Rat) : Option (Segment Rat) :=
  let o := b.ordered
  if s.isPoint || Scalar.isZero o.width || Scalar.isZero o.height then none else s.inside o

variable [Exact α]

/-- The exact ends of a segment, unless they are too far out to calculate with. -/
def kept? (s : Segment α) : Option (Segment Rat) :=
  s.rational?.filter fun e =>
    Exact.isKept α (e.start.x * e.finish.y) && Exact.isKept α (e.start.y * e.finish.x)

/-- The part of a segment that is drawn: all of it where there is no box and
where both ends lie in the box, otherwise the part inside. A part that is one
point when rounded is not drawn; a box without limits is refused. -/
def clip (s : Segment α) (bounds : Option (Bounds α)) : Outcome (Option (Segment α)) :=
  match bounds with
  | none => .ok (some s)
  | some b =>
    if b.contains s.start && b.contains s.finish then .ok (some s)
    else match b.rational? with
      | none => .error .boundsUnlimited
      | some box =>
        .ok ((s.kept?.bind (part · box)).map Segment.ofRational |>.filter fun r => !r.isPoint)

end MapSheets.Segment
