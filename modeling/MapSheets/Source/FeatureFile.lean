import MapSheets.Calendar.Note
import MapSheets.Geodesy.Reference
import MapSheets.Geodesy.Survey
import MapSheets.Json.Reader
import MapSheets.Json.Writer
import MapSheets.Source.Feature

/-
Feature files: a collection of features, each with a geometry and named
properties, as JSON text. The entries of a column are all of one kind; a
column of notes of dates is one of dates. A feature whose geometry is of no
known form keeps its row and has no shape.
-/

namespace MapSheets

/-- The content of a feature file. -/
structure FeatureFile where
  /-- The reference system of the coordinates; longitudes and latitudes
  without one. -/
  srid : Option Int
  features : List (Feature Float)

namespace FeatureFile

-- ============================================================== geometries

/-- A number of a coordinate. -/
def number? : Json → Option Float
  | .int n => some (Float.ofInt n)
  | .float x => some x
  | _ => none

/-- A point; heights are left out. -/
def point? : Json → Option (Point Float)
  | .arr (x :: y :: _) => do return ⟨← number? x, ← number? y⟩
  | _ => none

/-- A list of things that are each read in some way. -/
def list? {β : Type} (read : Json → Option β) : Json → Option (List β)
  | .arr elements => elements.mapM read
  | _ => none

/-- A polygon: a list of rings, without the empty ones. -/
def polygon? (j : Json) : Option (Polygon Float) := do
  return ⟨(← list? (list? point?) j).filter (!·.isEmpty)⟩

/-- The shape of coordinates, by the name of their kind. -/
def simpleShape? (kind : String) (coordinates : Json) : Option (Shape Float) :=
  match kind with
  | "point" => match coordinates with
    | .arr [] => some {}
    | c => do return { points := [← point? c] }
  | "multipoint" => do return { points := ← list? point? coordinates }
  | "linestring" => do return { lines := [← list? point? coordinates] }
  | "multilinestring" => do return { lines := ← list? (list? point?) coordinates }
  | "polygon" => do return { areas := [← polygon? coordinates] }
  | "multipolygon" => do return { areas := ← list? polygon? coordinates }
  | _ => none

/-- How deep collections of geometries may be nested. -/
def depthLimit : Nat := 32

/-- The shape of a geometry, nested no deeper than a limit. -/
def shapeWithin? : Nat → Json → Option (Shape Float)
  | 0, _ => none
  | depth + 1, .obj fields =>
    match fields.lookup "type" with
    | some (.str kind) =>
      if kind.toLower = "geometrycollection" then do
        let parts ← list? (shapeWithin? depth) ((fields.lookup "geometries").getD .null)
        return parts.foldl (· ++ ·) {}
      else simpleShape? kind.toLower ((fields.lookup "coordinates").getD .null)
    | _ => none
  | _, _ => none

/-- The shape of a geometry. -/
def shape? : Json → Option (Shape Float) := shapeWithin? depthLimit

-- ================================================================= columns

/-- What the entries of a column are. -/
inductive Kind where
  | flags
  | wholes
  | numbers
  | texts
  | days
  | moments
  /-- Times of day, which are left out. -/
  | times
  | asGiven

/-- Whether a value is a whole number of sixty-four bits or a truth value. -/
def isWhole : Json → Bool
  | .bool _ => true
  | .int n => -(twoTo 63 : Int) ≤ n && n < twoTo 63
  | _ => false

/-- The note of a date that a value is. -/
def note? : Json → Option DateNote
  | .str s => DateNote.read? s
  | _ => none

/-- The kind of a column of notes that tell such things. -/
def Kind.ofNotes (told : List NoteKind) : Kind :=
  if told.all (· == .day) then .days
  else if told.all (· == .time) then .times
  else if told.contains .time then .texts
  else .moments

/-- The kind of a column with some values. -/
def Kind.of (values : List Json) : Kind :=
  let all (p : Json → Bool) : Bool := values.all p
  if all (· matches .bool _) then .flags
  else if all isWhole then .wholes
  else if all (fun v => v matches .bool _ | .int _ | .float _) then .numbers
  else if all (· matches .arr _) || all (· matches .obj _) then .asGiven
  else match values.mapM note? with
    | some notes => .ofNotes (notes.map (·.kind))
    | none => .texts

/-- The value of a truth value in numbers. -/
def flagValue (b : Bool) : Int := if b then 1 else 0

/-- The entry of a value in a column of some kind that holds no dates. -/
def plainEntry (k : Kind) : Json → Entry Float
  | .null => .missing
  | .str s => .text s
  | .bool b => match k with
    | .wholes => .whole (flagValue b)
    | .numbers => .number (Float.ofInt (flagValue b))
    | .texts => .text (Json.bool b).write
    | _ => .flag b
  | .int n => match k with
    | .numbers => .number (Float.ofInt n)
    | .texts => .text (toString n)
    | _ => .whole n
  | v => match k with
    | .texts => .text v.write
    | _ => Entry.ofJson v

/-- The members of a feature that are no properties. -/
def ownMembers : List String := ["type", "geometry", "centroid", "bbox", "center"]

/-- The properties of a feature. Where it has none under that name, all that
its own members leave are properties. -/
def properties (fields : List (String × Json)) : List (String × Json) :=
  match fields.lookup "properties" with
  | some (.obj properties) => properties
  | none | some .null => fields.filter fun (name, _) => !ownMembers.contains name
  | some _ => []

/-- The entry of a note in a column of moments: the moments by one clock, or by
universal time where their clocks differ. Where one of them is not in the
calendar, all stay texts. -/
def momentEntry (column : List DateNote) (n : DateNote) : Entry Float :=
  if !column.all DateNote.isPossible then .text n.text
  else if column.all (·.moment.ahead == n.moment.ahead) then .moment n.moment
  else .moment n.moment.universal

/-- The entries of a column, each from its value; a column of times has none.
A column of truth values with gaps is one of numbers. -/
def entryIn (values : List Json) (v : Json) : Option (Entry Float) :=
  let isGap (v : Json) : Bool := v matches .null
  let known := values.filter (!isGap ·)
  match Kind.of known with
  | .flags => some (plainEntry (if values.any isGap then .numbers else .flags) v)
  | .days => some ((note? v).elim .missing fun n => .moment n.moment)
  | .moments => some ((note? v).elim .missing (momentEntry (known.filterMap note?)))
  | .times => none
  | kind => some (plainEntry kind v)

/-- The rows of the properties of all features. -/
def rows (table : List (List (String × Json))) : List (Row Float) :=
  let column (name : String) : List Json := table.map fun r => (r.lookup name).getD .null
  table.map fun r => r.filterMap fun (name, v) => (entryIn (column name) v).map (name, ·)

-- =================================================================== files

/-- The reference system that a collection names. -/
def srid? (fields : List (String × Json)) : Option Int := do
  let .obj crs ← fields.lookup "crs" | none
  let .obj named ← crs.lookup "properties" | none
  let .str name ← named.lookup "name" | none
  match (name.splitOn ":").map String.toUpper with
  | ["EPSG", code] => Reading.int? code
  | ["URN", "OGC", "DEF", "CRS", "EPSG", _, code] => Reading.int? code
  | _ => none

/-- The reference system of a collection; without a known one its coordinates are
longitudes and latitudes. -/
def system (fields : List (String × Json)) : Option Int :=
  (srid? fields).filter fun srid => srid != geographicSrid && Reference.isKnown srid

/-- The content of objects that are features. -/
def ofFeatures (srid : Option Int) (objects : List Json) : FeatureFile :=
  let members : Json → List (String × Json)
    | .obj fields => fields
    | _ => []
  let shapes := objects.map fun o => shape? (((members o).lookup "geometry").getD .null)
  let rows := rows (objects.map fun o => properties (members o))
  ⟨srid, (shapes.zip rows).map fun (shape, row) => ⟨shape, row⟩⟩

/-- The content of a text; a mark of the byte order in front does not count. -/
def parse? (text : String) : Option FeatureFile := do
  let text := if text.startsWith "\ufeff" then String.ofList (text.toList.drop 1) else text
  let .obj fields ← Json.read? text | none
  let .str kind ← fields.lookup "type" | none
  let srid := system fields
  if kind = "FeatureCollection" then
    match fields.lookup "features" with
    | some (.arr features) => some (ofFeatures srid features)
    | _ => none
  else if kind = "Feature" then some (ofFeatures srid [.obj fields])
  else do
    let shape ← shape? (.obj fields)
    some ⟨srid, [⟨some shape, []⟩]⟩

/-- Refuses dates that the calendar does not have. -/
def refuseImpossible (f : FeatureFile) : Outcome Unit :=
  f.features.forM fun f => f.row.forM fun (_, e) =>
    match e with
    | .moment m => match m.outOfRange? with
      | some part => .error (.date (.missing part m.year))
      | none => .ok ()
    | _ => .ok ()

/-- Refuses shapes with rings that are open. -/
def refuseOpen (f : FeatureFile) : Outcome Unit :=
  if f.features.all fun f => f.shape.all (·.isComplete) then .ok () else .error .ringOpen

/-- Refuses what cannot be held in a table. -/
def check (f : FeatureFile) : Outcome Unit := do
  f.refuseImpossible
  f.refuseOpen

end FeatureFile

end MapSheets
