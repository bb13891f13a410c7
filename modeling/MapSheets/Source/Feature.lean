import MapSheets.Cell.Basic
import MapSheets.Json.Value
import MapSheets.Number.Reading
import MapSheets.Plane.Shape

/-
Features of a grid file. A feature is a shape and a row of named entries; the
cell that it describes takes its corners from the row where the row has them,
and from the extent of the shape otherwise.
-/

namespace MapSheets

/-- An entry of a row. -/
inductive Entry (α : Type) where
  | missing
  | text (s : String)
  | number (x : α)
  | whole (n : Int)
  | flag (b : Bool)
  | moment (m : Moment)
  /-- A list or an object. -/
  | compound (v : Json)

namespace Entry

variable {α : Type}

/-- The entry of a value as it stands. -/
def ofJson : Json → Entry Float
  | .null => missing
  | .bool b => flag b
  | .int n => whole n
  | .float x => number x
  | .str s => text s
  | v => compound v

variable [Scalar α]

/-- A list without values is neither missing nor there. -/
def listEmpty : Failure := .foreign "ValueError" ("The truth value of an empty array is ambiguous. "
  ++ "Use \x60array.size > 0\x60 to check that an array is not empty.")

/-- A list of several values is neither missing nor there. -/
def listLong : Failure := .foreign "ValueError" ("The truth value of an array with more than one "
  ++ "element is ambiguous. Use a.any() or a.all()")

/-- Whether an entry counts as missing; an undefined number does, and so does
a list of nothing but a gap. Other lists must have one value. -/
def isMissing : Entry α → Outcome Bool
  | missing => .ok true
  | number x => .ok (Scalar.isUndefined x)
  | compound (.arr [.null]) => .ok true
  | compound (.arr [_]) => .ok false
  | compound (.arr []) => .error listEmpty
  | compound (.arr _) => .error listLong
  | _ => .ok false

variable [NumberText α]

/-- An entry in print; a missing one has no text. -/
def shown : Entry α → Option String
  | missing => none
  | text s => some s
  | number x => if Scalar.isUndefined x then none else some (NumberText.shortest x)
  | whole n => some (toString n)
  | flag b => some (if b then "True" else "False")
  | moment m => some (m.textWith " ")
  | compound v => some v.display

/-- The moment that an entry is. -/
def moment? : Entry α → Option Moment
  | moment m => some m
  | _ => none

/-- An entry as an identifier; a moment is told as those of its column are. -/
def idText (column : List (Entry α)) : Entry α → Option String
  | moment m => some (m.textAmong (column.filterMap moment?))
  | e => e.shown

end Entry

/-- A row of entries, each under the name of its column. -/
abbrev Row (α : Type) := List (String × Entry α)

namespace Row

variable {α : Type} [Scalar α]

/-- The entry of a column, missing if the row has none. -/
def entry (r : Row α) (name : String) : Entry α := (r.lookup name).getD .missing

variable [NumberText α]

/-- The text of a column, if it has one. -/
def text? (r : Row α) (name : String) : Outcome (Option String) := do
  let e := r.entry name
  if ← e.isMissing then return none else return e.shown

/-- The text of a column, empty if it is missing. -/
def textAt (r : Row α) (name : String) : Outcome String := do
  return (← r.text? name).getD ""

/-- The stamp of a column. -/
def stampAt (r : Row α) (name : String) : Outcome (Option Stamp) :=
  match r.entry name with
  | .moment m => .ok (some (.moment m))
  | _ => do (← r.text? name).mapM Stamp.parse

/-- What is no number and does not write one. -/
def noNumber (kind : String) : Failure :=
  .wrongOperand ("float() argument must be a string or a real number, not '" ++ kind ++ "'")

variable [NumberReading α]

/-- The number of a column; a text is read as one. -/
def numberAt (r : Row α) (name : String) : Outcome (Option α) := do
  let e := r.entry name
  if ← e.isMissing then return none
  match e with
  | .missing => return none
  | .number x => return some x
  | .whole n => return some (← (Scalar.ofInt? n : Except Fault α))
  | .flag b => return some (Scalar.ofInt (if b then 1 else 0))
  | .text s => match NumberReading.read? s with
    | some x => return some x
    | none => throw (.fault (.unreadable (Text.quoted s)))
  | .moment _ => throw (noNumber "Timestamp")
  | .compound v => throw (noNumber v.kindName)

end Row

/-- A feature: a shape, if it has one, with its row. -/
structure Feature (α : Type) where
  shape : Option (Shape α)
  row : Row α

namespace Feature

variable {α : Type} [Scalar α] [NumberText α]

/-- The column of the identifiers. -/
def idColumn : String := "mdg_id"

/-- The columns that are kept as metadata. -/
def metadataColumns : List String := ["published_by", "source", "edition"]

/-- The metadata of a row: the columns that have a text. -/
def metadata (r : Row α) : Outcome (List (String × String)) := do
  let entries ← metadataColumns.mapM fun name => do return (name, ← r.textAt name)
  return entries.filter (·.2 != "")

variable [NumberReading α] [Elementary α]

/-- The corners of the cell, south-west and north-east. What the row does not
tell is taken from the extent of the shape, which may have none. -/
def corners (f : Feature α) : Outcome (LatLng α × LatLng α) := do
  let some shape := f.shape | throw (.partAbsent "'NoneType' object has no attribute 'bounds'")
  let extent := shape.extent?
  let south := (← f.row.numberAt "swlat") <|> extent.map (·.minY)
  let west := (← f.row.numberAt "swlng") <|> extent.map (·.minX)
  let north := (← f.row.numberAt "nelat") <|> extent.map (·.maxY)
  let east := (← f.row.numberAt "nelng") <|> extent.map (·.maxX)
  match south, west, north, east with
  | some south, some west, some north, some east =>
    if [south, west, north, east].all Scalar.isFinite then
      return (⟨south, west⟩, ⟨north, east⟩)
    else throw (.cornersInvalid (← f.row.textAt idColumn))
  | _, _, _, _ => throw (.cornersInvalid (← f.row.textAt idColumn))

/-- The cell of a feature. Its identifier is the text of the column as it
stands, also where it reads like one with a part. -/
def cell (f : Feature α) : Outcome (Cell α) := do
  let r := f.row
  let (southWest, northEast) ← f.corners
  let edit : Edit := { editor := ← r.textAt "edited_by", date := ← r.stampAt "edited_at" }
  let metadata ← metadata r
  let id ← r.textAt idColumn
  let bare : Cell α :=
    { mdgid := Mdgid.whole id
      southWest := some southWest
      northEast := some northEast
      country := ← r.textAt "country"
      city := ← r.textAt "city"
      publishedAt := ← r.stampAt "published_at"
      nrn := ← r.textAt "nrn"
      sheet := ← r.textAt "sheet"
      series := ← r.textAt "series"
      edit := some edit
      metadata }
  let southWestDms : LatLng String := ⟨← r.textAt "swlat_dms", ← r.textAt "swlng_dms"⟩
  let northEastDms : LatLng String := ⟨← r.textAt "nelat_dms", ← r.textAt "nelng_dms"⟩
  let made ← bare.make id southWestDms northEastDms
  return { made with mdgid := Mdgid.whole id }

end Feature

end MapSheets
