import MapSheets.Plane.Bounds

/-
Gratings: a box divided into rows and columns that are named by letters and
numbers. Letters that look like digits are left out, and a row past the last
letter takes two letters, counted as a numbering without a zero. Unless the
labels are flipped they run down the page, so the bottom row of a frame that
counts upwards gets the last letter.
-/

namespace MapSheets

/-- A box divided into rows and columns. -/
structure Grating (α : Type) where
  rows : Int
  cols : Int
  minX : α
  /-- The side that rows are counted from. -/
  minY : α
  maxX : α
  maxY : α
  /-- The width of a column. -/
  width : α
  /-- The height of a row. -/
  height : α
  /-- Rows are counted downwards. -/
  flipY : Bool
  /-- Labels run up the page. -/
  flipYLabel : Bool

namespace Grating

-- ================================================================= letters

/-- The letters of rows: none that looks like a one, a zero or a five. -/
def letters : List Char := "ABCDEFGHJKMNPRTUVWXYZ".toList

/-- The letter of a place below the count of letters. -/
def letterAt (n : Nat) : Char := (letters[n % letters.length]?).getD 'A'

/-- The letters of a row counted from the first label: one letter while they
last, then the letters of the group in front and one more. -/
def rowLetters (row : Nat) : List Char :=
  if row < letters.length then [letterAt row]
  else rowLetters (row / letters.length - 1) ++ [letterAt row]
termination_by row
decreasing_by
  have : letters.length = 21 := rfl
  have := Nat.div_le_self row letters.length
  omega

-- ================================================================== making

/-- The fewest rows or columns. -/
def fewest : Int := 2

/-- The most rows or columns. -/
def most : Int := 40

/-- Whether a count of rows or columns can be drawn. -/
def isCount (n : Int) : Bool := fewest ≤ n && n ≤ most

variable {α : Type} [Scalar α]

/-- The grating of the box at a corner with a width and a height. -/
def ofBox (x y width height : α) (rows cols : Int) (flipY flipYLabel : Bool) :
    Outcome (Grating α) :=
  if !isCount rows then .error (.rowsOutOfRange rows)
  else if !isCount cols then .error (.colsOutOfRange cols)
  else
    let top := y + height
    .ok { rows, cols, minX := x, maxX := x + width
          minY := if flipY then top else y
          maxY := if flipY then y else top
          width := width / Scalar.ofInt cols
          height := height / Scalar.ofInt rows
          flipY, flipYLabel }

-- ================================================================== labels

/-- The label of a row, nothing outside the grating. -/
def rowLabel (g : Grating α) (row : Int) : String :=
  if row < 0 ∨ g.rows ≤ row then ""
  else
    let place := if g.flipYLabel then row else g.rows - row - 1
    String.ofList (rowLetters place.toNat)

/-- The label of a column, nothing outside the grating. -/
def colLabel (g : Grating α) (col : Int) : String :=
  if col < 0 ∨ g.cols ≤ col then "" else toString (col + 1)

/-- The label of the cell of a row and a column. -/
def cellLabel (g : Grating α) (row col : Int) : String := g.rowLabel row ++ g.colLabel col

-- =============================================================== positions

/-- The first side of a row. -/
def rowY (g : Grating α) (row : Int) : α :=
  let offset := Scalar.ofInt row * g.height
  g.minY + (if g.flipY then -offset else offset)

/-- The left side of a column. -/
def colX (g : Grating α) (col : Int) : α := g.minX + Scalar.ofInt col * g.width

/-- The corner that the cell of a row and a column is counted from. -/
def corner (g : Grating α) (row col : Int) : Point α := ⟨g.colX col, g.rowY row⟩

/-- The line in front of a row, across the box. -/
def rowLine (g : Grating α) (row : Int) : Segment α :=
  ⟨⟨g.minX, g.rowY row⟩, ⟨g.maxX, g.rowY row⟩⟩

/-- The line in front of a column, across the box. -/
def colLine (g : Grating α) (col : Int) : Segment α :=
  ⟨⟨g.colX col, g.minY⟩, ⟨g.colX col, g.maxY⟩⟩

/-- The numbers below a count. -/
def below (n : Int) : List Int := (List.range n.toNat).map fun (i : Nat) => (i : Int)

/-- The label and the center of every cell, column by column. -/
def centers (g : Grating α) : List (String × Point α) :=
  (below g.cols).flatMap fun col => (below g.rows).map fun row =>
    (g.cellLabel row col, (g.corner row col).between (g.corner (row + 1) (col + 1)))

/-- The lines of the grating, rows first, both sides of the box included. -/
def lines (g : Grating α) : List (Segment α) :=
  (below (g.rows + 1)).map g.rowLine ++ (below (g.cols + 1)).map g.colLine

end Grating

end MapSheets
