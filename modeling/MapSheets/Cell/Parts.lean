import MapSheets.Cell.Basic

/-
Parts of a cell. A cell at 1:50 000 is divided into ten rows of ten parts,
numbered row by row from the north-west corner; the last part of each row
carries the row's multiple of ten. Rows are a fortieth of a degree high and
counted from the north; columns are a tenth of the width of the cell, and
never narrower than a fortieth of a degree.
-/

namespace MapSheets

/-- Where the last column of a narrow cell lies. -/
inductive PartMode where
  /-- The last column ends at the east edge of the cell. -/
  | eastAligned
  /-- All columns are counted from the west edge. -/
  | westAligned
  deriving DecidableEq, Repr

/-- The name of a mode in configurations. -/
def PartMode.name : PartMode → String
  | eastAligned => "current"
  | westAligned => "suspected_fix"

/-- The mode of a name. -/
def PartMode.ofName? (name : String) : Option PartMode :=
  [eastAligned, westAligned].find? (·.name == name)

/-- The bounds of a part in degrees. -/
structure PartBounds (α : Type) where
  north : α
  south : α
  west : α
  east : α

namespace Parts

variable {α : Type} [Scalar α]

/-- The height of a row, and the least width of a column, in degrees. -/
def side : α := Scalar.ratio 25 1000

/-- The number of the last part. -/
def last : Int := 100

/-- The width of a column. -/
def columnWidth (southWest northEast : LatLng α) : α :=
  let span := Scalar.magnitude (southWest.lng - northEast.lng)
  if side < span then span / 10 else side

/-- The bounds of the square at a row and a column, both counted from one,
with columns measured from the west. -/
def fromWest (southWest northEast : LatLng α) (row column : Int) : PartBounds α :=
  let width := columnWidth southWest northEast
  let north := northEast.lat - Scalar.ofInt row * side
  let west := southWest.lng + Scalar.ofInt (column - 1) * width
  ⟨north, north - side, west, west + width⟩

/-- The bounds of the last square of a row, at the east edge. The row counts
as the one below, and is moved up again. -/
def atEastEdge (southWest northEast : LatLng α) (row : Int) : PartBounds α :=
  let north := northEast.lat - Scalar.ofInt row * side + side
  ⟨north, north - side, northEast.lng - columnWidth southWest northEast, northEast.lng⟩

/-- The bounds of a part; numbers below one mean the first. -/
def bounds (mode : PartMode) (southWest northEast : LatLng α) (part : Int) :
    Outcome (PartBounds α) :=
  if last < part then .error (.partOutOfRange part)
  else
    let part := max part 1
    let tens := part / 10
    let ones := part % 10
    .ok <| match mode with
    | .westAligned =>
      if ones = 0 then fromWest southWest northEast (tens - 1) 10
      else fromWest southWest northEast tens ones
    | .eastAligned =>
      if part = last then atEastEdge southWest northEast 10
      else if part < 11 then fromWest southWest northEast 0 part
      else if ones = 0 then atEastEdge southWest northEast tens
      else fromWest southWest northEast tens ones

/-- The number of the part that a point lies in. The tenth column carries
the number that the next row would begin with. -/
def numberAt (southWest northEast p : LatLng α) : Except Fault Int := do
  let width := columnWidth southWest northEast
  let east ← Scalar.truncate? (Scalar.magnitude (southWest.lng - p.lng) / width)
  let south ← Scalar.truncate? (Scalar.magnitude (northEast.lat - p.lat) / side)
  let column := east + 1
  return if column = 10 then (south + 1) * 10 else south * 10 + column

end Parts

namespace Cell

variable {α : Type} [Scalar α] [NumberText α] [Elementary α]

/-- Both corners of a cell that is divided. -/
def dividedCorners (c : Cell α) : Outcome (LatLng α × LatLng α) :=
  match c.southWest, c.northEast with
  | some p, some q => .ok (p, q)
  | _, _ => .error (.partAbsent "the cell has no corners to divide")

/-- A part of a cell. It keeps what is printed about the cell; all that
follows from its corners is computed anew. -/
def part (parent : Cell α) (mode : PartMode) (number : Int) : Outcome (Cell α) := do
  if Parts.last < number then throw (.partOutOfRange number)
  let number := max number 1
  let (southWest, northEast) ← parent.dividedCorners
  let b ← Parts.bounds mode southWest northEast number
  filled { parent with
    mdgid := ⟨parent.mdgid.id, number⟩
    southWest := some ⟨b.south, b.west⟩
    northEast := some ⟨b.north, b.east⟩
    seconds := none
    southWestDms := none
    northEastDms := none
    gridZone := none }

end Cell

end MapSheets
