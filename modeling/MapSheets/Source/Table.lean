import MapSheets.Geodesy.Survey
import MapSheets.Source.Feature

/-
Tables of features, and the three questions that they answer: the cell at a
point, the cell of an identifier, and a cell made for an extent. Where
several features would do, the first in the order of the table answers.
-/

namespace MapSheets

/-- The features of a grid, all of one cell size. -/
structure CellTable (α : Type) where
  features : List (Feature α)
  size : CellSize

/-- An extent: the least and the greatest coordinates, in some reference system. -/
structure Extent (α : Type) where
  minX : α
  minY : α
  maxX : α
  maxY : α

/-- An extent in print. -/
def Extent.text {α : Type} [NumberText α] (e : Extent α) : String :=
  "(" ++ ", ".intercalate ([e.minX, e.minY, e.maxX, e.maxY].map NumberText.shortest) ++ ")"

namespace CellTable

variable {α : Type} [Scalar α] [NumberText α] [NumberReading α] [Elementary α] [Exact α] [Survey α]

/-- The entries of a column, one for each feature. -/
def column (features : List (Feature α)) (name : String) : List (Entry α) :=
  features.map fun f => f.row.entry name

/-- Whether whole numbers fit in words of sixty-four bits, with a sign or without. -/
def fitWord (ns : List Int) : Bool :=
  ns.all (fun n => -(twoTo 63 : Int) ≤ n && n < twoTo 64)
    && !(ns.any (· < 0) && ns.any ((twoTo 63 : Int) ≤ ·))

/-- Whether the whole numbers of a column stay as they are because of their
size. Behind the first gap it is not looked at. -/
def isOversized (entries : List (Entry α)) : Bool :=
  let known := entries.takeWhile fun e => match e with
    | .missing => false
    | _ => true
  !fitWord (known.filterMap fun e => match e with
    | .whole n => some n
    | _ => none)

/-- Whether a column holds numbers with a fraction: nothing but numbers of
moderate size, and among them a fraction or a gap. -/
def isFractional (entries : List (Entry α)) : Bool :=
  entries.all (fun e => match e with
    | .missing | .number _ | .whole _ => true
    | _ => false)
  && entries.any (fun e => match e with
    | .whole _ => false
    | _ => true)
  && !isOversized entries

/-- The features with every column of one kind of number. -/
def evenColumns (features : List (Feature α)) : Outcome (List (Feature α)) :=
  features.mapM fun f => do
    let row ← f.row.mapM fun (name, e) => do
      match e with
      | .whole n =>
        if isFractional (column features name) then
          return (name, .number (← (Scalar.ofInt? n : Except Fault α)))
        else return (name, e)
      | e => return (name, e)
    return { f with row }

/-- Longitude and latitude of a point of another reference system. -/
def relocate (srid : Int) (p : Point α) : Outcome (Point α) := do
  let (x, y) ← toGeographic srid p.x p.y
  return ⟨x, y⟩

/-- A table of features whose shapes are in a reference system; without one
they count as longitudes and latitudes. -/
def ofFeatures (srid : Option Int) (features : List (Feature α)) (denominator : Int) :
    Outcome (CellTable α) := do
  let features ← match srid with
    | none => pure features
    | some srid => do
      -- the system must be known also where there is nothing to move
      let _ ← toGeographic srid (0 : α) 0
      features.mapM fun f => do
        return { f with shape := ← f.shape.mapM (·.mapPoints (relocate srid)) }
  return ⟨← evenColumns features, ← CellSize.published? denominator⟩

/-- The features whose extent overlaps a box; the index of the table. -/
def nearby (t : CellTable α) (box : Bounds α) : List (Feature α) :=
  t.features.filter fun f =>
    match f.shape.bind (·.extent?) with
    | some extent => extent.overlaps box
    | none => false

/-- The features that meet a box. -/
def meeting (t : CellTable α) (box : Bounds α) : List (Feature α) :=
  (t.nearby box).filter fun f => f.shape.any (·.meets box)

/-- The cell at a latitude and a longitude, which count as the second and the
first coordinate in another reference system. -/
def cellAt (t : CellTable α) (p : LatLng α) (srid : Int) : Outcome (Cell α) := do
  let (x, y) ← toGeographic srid p.lng p.lat
  match t.meeting ⟨x, x, y, y⟩ with
  | [] => throw (.noCellAt (NumberText.shortest p.lat) (NumberText.shortest p.lng))
  | f :: _ => f.cell

/-- The identifier that a feature is found by. -/
def key (t : CellTable α) (f : Feature α) : Option String :=
  (f.row.entry Feature.idColumn).idText (column t.features Feature.idColumn)

/-- The cell of an identifier; its part does not matter. -/
def cellNamed (t : CellTable α) (m : Mdgid) : Outcome (Cell α) := do
  if !t.features.any (fun f => (f.row.lookup Feature.idColumn).isSome) then
    throw (.keyAbsent (Text.quoted Feature.idColumn))
  match t.features.find? fun f => t.key f == some m.id with
  | none => throw (.noCellNamed m.id)
  | some f => f.cell

/-- A cell made for an extent. The first feature that meets it supplies what
is printed about the cell; the file of its sheet has a fresh name, so sheets
made for extents never share one. -/
def cellIn (t : CellTable α) (freshName : String) (extent : Extent α) (srid : Int) :
    Outcome (Cell α) := do
  if [extent.minX, extent.minY, extent.maxX, extent.maxY].any (!Scalar.isFinite ·) then
    throw (.extentInvalid extent.text)
  let (west, south) ← toGeographic srid extent.minX extent.minY
  let (east, north) ← toGeographic srid extent.maxX extent.maxY
  match t.meeting (Bounds.ordered ⟨west, east, south, north⟩) with
  | [] => throw (.noCellIn extent.text)
  | f :: _ =>
    let cell ← f.cell
    Cell.filled { cell with
      southWest := some ⟨south, west⟩
      northEast := some ⟨north, east⟩
      southWestDms := none
      northEastDms := none
      seconds := none
      gridZone := none
      metadata := cell.metadata.filter (·.1 != "filename") ++ [("filename", freshName)] }

end CellTable

end MapSheets
