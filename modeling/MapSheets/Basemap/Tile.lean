import MapSheets.Cell.Basic
import MapSheets.Number.Amount
import MapSheets.Number.Power

/-
Tiles of the web map. At a whole zoom the world is a square of tiles, two to
the power of the zoom along each side, each of 256 pixels. A window of pixels
around a point needs the tiles that it lies on, as far as the world has them.
-/

namespace MapSheets

/-- A tile by its column from the west and its row from the north. -/
structure Tile where
  x : Int
  y : Int
  deriving DecidableEq, Repr

/-- A box of world pixels. -/
structure Window (α : Type) where
  left : α
  top : α
  right : α
  bottom : α

/-- A box of tiles, its ends included. It is empty where an end lies before
the beginning. -/
structure TileRange where
  xMin : Int
  yMin : Int
  xMax : Int
  yMax : Int
  deriving DecidableEq, Repr

namespace TileRange

/-- The columns of the range. -/
def columns (r : TileRange) : Int := r.xMax - r.xMin + 1

/-- The rows of the range. -/
def rows (r : TileRange) : Int := r.yMax - r.yMin + 1

/-- Columns times rows. -/
def size (r : TileRange) : Int := r.columns * r.rows

/-- The whole numbers of a count from a first one. -/
def run (first count : Int) : List Int :=
  (List.range count.toNat).map fun (i : Nat) => first + i

/-- The tiles row by row. -/
def tiles (r : TileRange) : List Tile :=
  (run r.yMin r.rows).flatMap fun y => (run r.xMin r.columns).map fun x => ⟨x, y⟩

end TileRange

namespace Tile

variable {α : Type} [Scalar α] [Elementary α]

/-- The tile of a latitude and a longitude at a zoom. Latitudes are not
bounded here, so tiles beyond the world come out. -/
def ofPoint (p : LatLng α) (zoom : Int) : Except Fault Tile := do
  let count : α ← Elementary.powerOfTwo? (Scalar.ofInt zoom)
  let x ← Scalar.truncate? ((p.lng + 180) / 360 * count)
  let t ← Elementary.tangent? (Elementary.radians p.lat)
  let y ← Scalar.truncate?
    ((1 - Elementary.areaHyperbolicSine t / Elementary.pi) / 2 * count)
  return ⟨x, y⟩

/-- The north-west corner of the tile at a column and a row, which may be
fractions. -/
def corner (x y : Amount α) (zoom : Int) : Except Fault (LatLng α) := do
  let count : Amount α :=
    if 0 ≤ zoom then .whole (twoTo zoom.toNat) else .real (Elementary.powerOfTwo (Scalar.ofInt zoom))
  let across ← x.over? count
  let down ← (← y.timesWhole? 2).over? count
  let s ← Elementary.hyperbolicSine? (Elementary.pi * (1 - down))
  return ⟨Elementary.degrees (Elementary.arcTangent s), across * 360 - 180⟩

/-- What is taken off the far ends of a window, so that a window that ends
between two tiles does not need the second one. -/
def sliver : α := Scalar.ratio 1 1000000000

/-- The window of a size around a point, and its tiles. -/
def around (center : LatLng α) (zoom : Int) (width height : α) :
    Except Fault (TileRange × Window α) := do
  let (cx, cy) ← Mercator.pixelOf center.lat center.lng (Scalar.ofInt zoom) Mercator.tileSide
  let w : Window α := ⟨cx - width / 2, cy - height / 2, cx + width / 2, cy + height / 2⟩
  let count : Int := twoTo zoom.toNat
  let xMin ← Scalar.floor? (w.left / Mercator.tileSide)
  let yMin ← Scalar.floor? (w.top / Mercator.tileSide)
  let xMax ← Scalar.floor? ((w.right - sliver) / Mercator.tileSide)
  let yMax ← Scalar.floor? ((w.bottom - sliver) / Mercator.tileSide)
  return (⟨max 0 xMin, max 0 yMin, min (count - 1) xMax, min (count - 1) yMax⟩, w)

end Tile

end MapSheets
