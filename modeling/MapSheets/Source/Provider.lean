import MapSheets.Cell.Parts
import MapSheets.Source.Table

/-
Providers of cells. A provider is a table, a single cell, or the parts of
the cells of another provider; it answers by point, by identifier and by
extent, and has one cell size.
-/

namespace MapSheets

/-- A source of cells of one size. -/
inductive Provider (α : Type) where
  | table (t : CellTable α)
  /-- One cell that answers every question. -/
  | single (cell : Cell α) (size : CellSize)
  /-- The parts of the cells at 1:50 000 of a base. -/
  | parts (mode : PartMode) (base : Provider α)

namespace Provider

variable {α : Type}

/-- The size of the cells. -/
def size : Provider α → CellSize
  | table t => t.size
  | single _ size => size
  | parts _ _ => .fiveThousand

/-- The parts of the cells of a base, which must be at 1:50 000. -/
def ofParts (mode : PartMode) (base : Provider α) : Outcome (Provider α) :=
  if base.size = .fiftyThousand then .ok (parts mode base)
  else .error (.sizeUnsupported base.size.label)

variable [Scalar α] [NumberText α] [NumberReading α] [Elementary α] [Exact α] [Survey α]

/-- The cell at a point of a reference system. -/
def cellAt (p : LatLng α) (srid : Int) : Provider α → Outcome (Cell α)
  | table t => t.cellAt p srid
  | single cell _ => .ok cell
  | parts mode base => do
    let parent ← base.cellAt p srid
    let (lng, lat) ← toGeographic srid p.lng p.lat
    let (southWest, northEast) ← parent.dividedCorners
    let number ← (Parts.numberAt southWest northEast ⟨lat, lng⟩ : Outcome Int)
    parent.part mode number

/-- The cell of an identifier. -/
def cellNamed (m : Mdgid) : Provider α → Outcome (Cell α)
  | table t => t.cellNamed m
  | single cell _ => .ok cell
  | parts mode base =>
    if Parts.last < m.part then .error (.partOutOfRange m.part)
    else do
      let parent ← base.cellNamed m.withoutPart
      parent.part mode m.part

/-- A cell made for an extent; parts leave it to their base. -/
def cellIn (freshName : String) (extent : Extent α) (srid : Int) :
    Provider α → Outcome (Cell α)
  | table t => t.cellIn freshName extent srid
  | single cell _ => .ok cell
  | parts _ base => base.cellIn freshName extent srid

end Provider

end MapSheets
