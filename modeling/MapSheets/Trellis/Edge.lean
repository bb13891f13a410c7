import MapSheets.Number.Amount
import MapSheets.Number.Elementary
import MapSheets.Trellis.Spacing

/-
Edges of the frame, and where the grid crosses them. An edge runs along one
axis of the grid and drifts along the other; the multiples of the spacing
strictly between its ends are the values whose bars cross it. Two opposite
edges make a family of bars: every value that crosses either edge, once.
-/

namespace MapSheets

/-- One edge of the frame with the grid values that cross it. -/
structure Edge (α : Type) where
  /-- The coordinate at the start. -/
  start : α
  /-- The coordinate at the end. -/
  finish : α
  /-- The length of the edge in meters. -/
  length : α
  /-- The first multiple of the spacing after the start. -/
  first : Int
  /-- The last multiple of the spacing before the end. -/
  last : Int
  /-- How many multiples lie between. -/
  steps : Int
  /-- The coordinate meters from the start to the first multiple. -/
  startOffset : α
  /-- The coordinate meters from the last multiple to the end. -/
  endOffset : α
  /-- The edge meters in one step of the grid. -/
  stepSize : α

namespace Edge

/-- How many multiples a run from a first to a last one has. -/
def stepsBetween (first last size : Int) : Int :=
  if first ≤ last then (last - first).fdiv size + 1 else 0

variable {α : Type} [Scalar α]

/-- The edge from one coordinate to another with a given length. An edge that
does not run forward is refused. -/
def ofLength [NumberText α] (start finish length : α) (spacing : Spacing) :
    Outcome (Edge α) := do
  if ¬(0 < finish - start) then
    throw (.edgeBackward (NumberText.shortest start) (NumberText.shortest finish))
  let size := spacing.size
  let startFloor ← Scalar.floor? start
  let startSplit ← spacing.split startFloor
  let first := startFloor - startSplit.trailing + size
  let endFloor ← Scalar.floor? finish
  let endSplit ← spacing.split endFloor
  let below := endFloor - endSplit.trailing
  let ceiling ← Scalar.ceil? finish
  let last := if ceiling ≤ below then below - size else below
  return {
    start, finish, length, first, last
    steps := stepsBetween first last size
    startOffset := (← Scalar.ofInt? first : α) - start
    endOffset := finish - (← Scalar.ofInt? last : α)
    stepSize := (← Scalar.ofInt? size : α) * length / (finish - start) }

/-- The edge from one coordinate to another that drifts across by an amount. -/
def between [NumberText α] [Elementary α] (start finish across : α) (spacing : Spacing) :
    Outcome (Edge α) :=
  ofLength start finish (Elementary.hypotenuse (finish - start) across) spacing

/-- The coordinate meters along the edge. -/
def axisDelta (e : Edge α) : α := e.finish - e.start

/-- The edge meters in a coordinate meter. -/
def scale (e : Edge α) : α := e.length / e.axisDelta

/-- The edge meters from the start to where a value crosses the edge. -/
def distanceTo (e : Edge α) (value : α) : α := (value - e.start) * e.scale

/-- The other coordinate where a value crosses the edge, given that coordinate
at both ends. -/
def crossAt (e : Edge α) (value startCross endCross : α) : α :=
  startCross + (endCross - startCross) * ((value - e.start) / e.axisDelta)

end Edge

/-- The bars between two opposite edges. -/
structure Family (α : Type) where
  /-- The edge that bars start on: the left or the lower one. -/
  start : Edge α
  /-- The edge that bars end on: the right or the upper one. -/
  finish : Edge α
  /-- The value of the first bar. -/
  first : Int
  /-- How many bars there are. -/
  steps : Int
  spacing : Spacing

namespace Family

variable {α : Type} [Scalar α]

/-- The bars that cross either of two edges. -/
def between (start finish : Edge α) (spacing : Spacing) : Family α :=
  let first := min start.first finish.first
  let last := max start.last finish.last
  { start, finish, first, steps := Edge.stepsBetween first last spacing.size, spacing }

/-- The value of a bar. -/
def valueAt (f : Family α) (index : Int) : Int := f.first + index * f.spacing.size

/-- The value at an index as a quantity. The index may be a fraction, and the
value then lies between two bars. -/
def quantityAt? (f : Family α) : Amount α → Except Fault α
  | .whole index => Scalar.ofInt? (f.valueAt index)
  | .real index => do return index * (← Scalar.ofInt? f.spacing.size) + (← Scalar.ofInt? f.first)
  | .flag b => Scalar.ofInt? (f.valueAt b.toNat)

/-- The edge meters from the start of the first edge to the first bar. -/
def startOffset (f : Family α) : α := f.start.distanceTo (Scalar.ofInt f.first)

/-- The edge meters from the start of the second edge to the first bar. -/
def endOffset (f : Family α) : α := f.finish.distanceTo (Scalar.ofInt f.first)

end Family

end MapSheets
