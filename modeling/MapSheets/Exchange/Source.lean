import MapSheets.Exchange.Plane
import MapSheets.Source.Kinds

/-
Features, tables and providers in exchange.
-/

namespace MapSheets.Exchange

/-- Reads a ring: three points at least, or none. -/
def readRing (j : Json) : Outcome (List (Point Float)) := do
  let points ← j.list.mapM readPoint
  if points.length = 1 || points.length = 2 then throw (.countWrong 4 points.length)
  return points

/-- Reads a feature: a box or a ring of points, with the properties of its row. -/
def readFeature (j : Json) : Outcome (Feature Float) := do
  let shape : Polygon Float ← match j.field "box" with
    | .null => do pure ⟨[← readRing (j.field "polygon")]⟩
    | box => do
      let (x₀, y₀, x₁, y₁) ← box.four
      pure (Polygon.ofBounds ⟨x₀, x₁, y₀, y₁⟩)
  return ⟨some (.ofPolygon shape), (j.field "props").fields.map fun (n, v) => (n, .ofJson v)⟩

/-- Reads the number of a reference system; the geographic one needs no
change, nor do features without one. -/
def readSystem (j : Json) : Option Int :=
  ((j.field "crs").option Json.whole).filter (· != geographicSrid)

/-- Reads a table. -/
def readTable (j : Json) : Outcome (Provider Float) := do
  return .table (← CellTable.ofFeatures (readSystem j) (← (j.listAt "features").mapM readFeature)
    (j.fieldOr "size" Json.whole CellSize.fiftyThousand.denominator))

/-- Reads an extent. -/
def readExtent (j : Json) : Outcome (Extent Float) := do
  let (x₀, y₀, x₁, y₁) ← j.four
  return ⟨x₀, y₀, x₁, y₁⟩

/-- Reads the files of an object: texts by path. -/
def readFiles (j : Json) : Files := ⟨j.fields.map fun (path, v) => (path, v.text)⟩

end MapSheets.Exchange
