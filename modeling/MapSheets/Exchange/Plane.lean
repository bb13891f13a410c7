import MapSheets.Exchange.Number
import MapSheets.Plane.PixelBox

/-
Points, segments and boxes in exchange: lists of numbers.
-/

namespace MapSheets.Exchange

/-- A point with its coordinates in a form. -/
def pointIn (form : Float → Json) (p : Point Float) : Json := .arr [form p.x, form p.y]

/-- A point, exactly. -/
def point : Point Float → Json := pointIn exact

/-- A segment, exactly. -/
def segment (s : Segment Float) : Json := .arr [point s.start, point s.finish]

/-- The least coordinates of a box and then the greatest. -/
def bounds (b : Bounds Float) : Json := numbers exact [b.minX, b.minY, b.maxX, b.maxY]

/-- Reads a point. -/
def readPoint (j : Json) : Outcome (Point Float) := do
  let (x, y) ← j.pair
  return ⟨x, y⟩

/-- Reads a segment of two points. -/
def readSegment (j : Json) : Outcome (Segment Float) := do
  match j.list with
  | [a, b] => return ⟨← readPoint a, ← readPoint b⟩
  | points => throw (.countWrong 2 points.length)

/-- Reads a segment of four numbers. -/
def readFlatSegment (j : Json) : Outcome (Segment Float) := do
  let (x₁, y₁, x₂, y₂) ← j.four
  return ⟨⟨x₁, y₁⟩, ⟨x₂, y₂⟩⟩

/-- Reads a box, side by side along each axis. -/
def readBounds (j : Json) : Outcome (Bounds Float) := do
  let (minX, maxX, minY, maxY) ← j.four
  return ⟨minX, maxX, minY, maxY⟩

/-- Reads a frame on a canvas; its size may be given by what it frames. -/
def readFrame (j : Json) (size : Option (Float × Float)) : Outcome (PixelBox Float) := do
  let (width, height) ← match size with
    | some s => pure s
    | none => do pure (← j.realAt "w", ← j.realAt "h")
  let b ← PixelBox.ofPage (← j.realAt "x") (← j.realAt "y") width height (← j.realAt "ground")
    (← j.realOr "buffer" PixelBox.labelGap)
  return { b with
    rowOffset := ← j.realOr "row_offset" b.rowOffset
    colOffset := ← j.realOr "col_offset" b.colOffset }

end MapSheets.Exchange
