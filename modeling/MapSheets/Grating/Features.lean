import MapSheets.Grating.Basic

/-
A grating as map features: a labelled point for every cell, and all lines.
Rows and columns may be left to the box: its longer side is then divided as
often as asked and its shorter side into as many whole cells of that length
as it holds.
-/

namespace MapSheets.Grating

variable {α : Type} [Scalar α]

/-- A division of a box: width and height of a cell, rows and columns. -/
structure Division (α : Type) where
  width : α
  height : α
  rows : Int
  cols : Int

/-- As many whole cells as fit along a side, one at least. -/
def wholeCells (side cell : α) : Except Fault Int := do
  let cells ← Scalar.quotient? side cell
  return max 1 (← Scalar.truncate? cells)

/-- Divides the longer side of a box into a count of parts and the shorter
side into cells of about that length. -/
def squarish (width height : α) (division : Int) : Except Fault (Division α) := do
  let width := Scalar.magnitude width
  let height := Scalar.magnitude height
  let parts : α ← Scalar.ofInt? division
  let cellWidth ← Scalar.quotient? width parts
  let cellHeight ← Scalar.quotient? height parts
  if cellHeight ≤ cellWidth then
    let rows ← wholeCells height cellWidth
    return ⟨cellWidth, height / (← Scalar.ofInt? rows), rows, division⟩
  else
    let cols ← wholeCells width cellHeight
    return ⟨width / (← Scalar.ofInt? cols), cellHeight, division, cols⟩

/-- The features of a grating. -/
structure Features (α : Type) where
  points : List (String × Point α)
  lines : List (Segment α)

/-- A length divided by a count; zero for a count of zero. -/
def share (length : α) (count : Int) : Except Fault α :=
  if count = 0 then .ok 0 else do return length / (← Scalar.ofInt? count)

/-- The division of a box as given, or the near-square one if asked for and
drawable. -/
def divide (width height : α) (rows cols : Int) (rectangle : Bool) :
    Except Fault (Division α) := do
  let given : Division α := ⟨← share width cols, ← share height rows, rows, cols⟩
  if rectangle then return given
  else
    let near ← squarish width height (max rows cols)
    if isCount near.rows && isCount near.cols then
      return if height < 0 then { near with height := -near.height } else near
    else return given

/-- The point features and the lines of a grating over a box. -/
def features (minX minY maxX maxY : α) (rows cols : Int) (flipped rectangle : Bool) :
    Outcome (Features α) := do
  let width := maxX - minX
  let height := maxY - minY
  let d ← divide width height rows cols rectangle
  let g ← ofBox minX minY width height d.rows d.cols false flipped
  let x (col : Int) : α := minX + d.width * Scalar.ofInt col
  let y (row : Int) : α := minY + d.height * Scalar.ofInt row
  let middle (a b : α) : α := a + (b - a) / 2
  return {
    points := (below d.cols).flatMap fun col => (below d.rows).map fun row =>
      (g.cellLabel row col,
        ⟨middle (x col) (x (col + 1)), middle (y row) (y (row + 1))⟩)
    lines :=
      ((below (d.cols + 1)).map fun col => ⟨⟨x col, minY⟩, ⟨x col, maxY⟩⟩)
      ++ ((below (d.rows + 1)).map fun row => ⟨⟨minX, y row⟩, ⟨maxX, y row⟩⟩) }

end MapSheets.Grating
