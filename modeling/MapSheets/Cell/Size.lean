import MapSheets.Failure

/-
Sizes of cells. A cell is named after the scale at which one cell fills one
sheet, written as the number below the fraction bar.
-/

namespace MapSheets

/-- A cell size: the denominator of a scale. -/
structure CellSize where
  denominator : Int
  deriving DecidableEq, Repr

namespace CellSize

/-- Sheets at 1:5 000. -/
def fiveThousand : CellSize := ⟨5000⟩

/-- Sheets at 1:50 000. -/
def fiftyThousand : CellSize := ⟨50000⟩

/-- Sheets at 1:250 000. -/
def quarterMillion : CellSize := ⟨250000⟩

/-- The sizes that published grids have, each with its name. -/
def published : List (CellSize × String) :=
  [(fiveThousand, "5K"), (fiftyThousand, "50K"), (quarterMillion, "250K")]

/-- The name of a size; one that is not published is told in meters. -/
def label (size : CellSize) : String :=
  (published.lookup size).getD (toString size.denominator ++ "m")

/-- A published size by its denominator. -/
def published? (denominator : Int) : Outcome CellSize :=
  match published.find? (·.1.denominator == denominator) with
  | some (size, _) => .ok size
  | none => .error .sizeUnknown

end CellSize

end MapSheets
