import MapSheets.Exchange.Geodesy
import MapSheets.Exchange.Plane
import MapSheets.Geodesy.MilitaryGrid
import MapSheets.Trellis.Label

/-
Trellises in exchange: edges, families with some of their bars, and labels.
The pieces of a label are told as a sum of powers of two.
-/

namespace MapSheets.Exchange

/-- The three parts of a coordinate. -/
def splitCoord (p : SplitCoord) : Json := .arr [p.leading, p.label, p.trailing]

/-- An edge with all that was measured on it. -/
def edge (e : Edge Float) : Json :=
  .obj [("start", fixed 4 e.start), ("end", fixed 4 e.finish), ("length", fixed 4 e.length),
    ("start_offset", fixed 4 e.startOffset), ("end_offset", fixed 4 e.endOffset),
    ("step_size", fixed 4 e.stepSize), ("axis_delta", fixed 4 e.axisDelta), ("first", e.first),
    ("last", e.last), ("steps", e.steps), ("scale", significant e.scale)]

/-- Reads an edge. -/
def readEdge (spacing : Spacing) (j : Json) : Outcome (Edge Float) := do
  match ← j.reals with
  | [start, finish, across] => Edge.between start finish across spacing
  | xs => throw (.countWrong 3 xs.length)

/-- The power of two of a piece. -/
def pieceBit : LabelPiece → Nat
  | .leading => 1
  | .label => 2
  | .trailing => 4
  | .unit => 8
  | .side => 16

/-- Reads which pieces are shown. -/
def readShown (n : Int) : Shown :=
  LabelPiece.all.filter fun p => n.fdiv (pieceBit p) % 2 == 1

/-- Which pieces are shown. -/
def shown (s : Shown) : Json :=
  .int ((LabelPiece.all.filter s.contains).foldl (fun n p => n + pieceBit p) 0)

/-- Reads a label. -/
def readLabel (j : Json) : CoordLabel :=
  { coord := j.wholeAt "coord", spacing := ⟨j.wholeAt "size"⟩
    unit := ((j.fields.lookup "unit").map Json.plain).getD "m"
    side := ((j.fields.lookup "hemi").map Json.plain).getD "" }

/-- A bar with its ends on the page and in the grid. -/
def bar (b : Bar Float) : Json :=
  .arr ([.int b.index, .int b.value] ++ [b.line.start.x, b.line.start.y, b.line.finish.x,
    b.line.finish.y, b.start.easting, b.start.northing, b.finish.easting, b.finish.northing,
    b.length].map (fixed 4))

/-- A family of bars. Every so many bars, and the last one, are told. -/
def family (f : Family Float) (bars : List (Bar Float)) (label : Bar Float → CoordLabel)
    (every : Int) : Outcome Json := do
  if every == 0 && !bars.isEmpty then throw (.fault .remainderByZero)
  let told := bars.filter fun (b : Bar Float) =>
    b.index % every == 0 || b.index + 1 == (bars.length : Int)
  let labels ← told.mapM fun b => do
    let s ← (label b).shownAt b.index
    return Json.arr [shown s, (label b).side]
  return .obj [("first", f.first), ("steps", f.steps), ("start", edge f.start),
    ("end", edge f.finish), ("start_offset", fixed 4 f.startOffset),
    ("end_offset", fixed 4 f.endOffset), ("bars", Json.ofList bar told), ("labels", .arr labels)]

/-- Reads the frame of a trellis and lays the trellis out. -/
def readTrellis (j : Json) : Outcome (Trellis Float) := do
  Trellis.ofFrame (← readEllipsoid (j.field "ellipsoid")) ⟨j.fieldOr "grid" Json.whole 1000⟩
    ((j.field "zone").option Json.whole) (← readPoint (j.field "tl")) (← readPoint (j.field "br"))

end MapSheets.Exchange
