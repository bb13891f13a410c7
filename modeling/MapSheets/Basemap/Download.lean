import MapSheets.Basemap.Address
import MapSheets.Basemap.Image
import MapSheets.Basemap.Tile
import MapSheets.Work

/-
Base maps from a tile server. The tiles under the map frame are fetched one
by one and put together; the window is cut out and brought to the size of the
frame. A zoom that needs too many tiles, or that the server mostly does not
have, is given up for the next lower one.

The server is a function from addresses to replies, and so is what brings an
image to a size one from images to images. A download is then a value: the notes
that it leaves, and the map or the reason why there is none.
-/

namespace MapSheets

/-- A server's answer to the request for a tile. -/
inductive Reply where
  | image (i : Image)
  /-- Any answer without an image, under its number. -/
  | status (code : Int)
  /-- No answer at all, and why. -/
  | unreachable (reason : String)

/-- A tile server: the template of its addresses, what it replies, and what its maps
are resampled with. -/
structure TileServer where
  /-- The template as it was configured. -/
  template : Json
  reply : String → Reply
  /-- An image brought to a width and a height. -/
  resize : Image → Nat → Nat → Image

/-- The note of a download: a printed line or a request to the server. -/
inductive DownloadNote where
  | line (text : String)
  | requested (address : String)
  deriving DecidableEq, Repr

/-- A base map that is asked for: the middle, the zoom of the sheet, and the
size in pixels. -/
structure MapRequest (α : Type) where
  center : LatLng α
  zoom : α
  width : Int
  height : Int
  /-- The style as it was given. -/
  style : Json

/-- A request whose size is rounded to whole pixels. -/
def MapRequest.ofSize {α : Type} [Scalar α] (center : LatLng α) (zoom width height : α)
    (style : Json) : Except Fault (MapRequest α) := do
  let width ← Scalar.round? width
  let height ← Scalar.round? height
  return { center, zoom, width, height, style }

/-- A base map, with the zoom of its tiles and the corners that they reach to. -/
structure Basemap (α : Type) where
  image : Image
  zoom : Nat
  source : Json
  northWest : LatLng α
  southEast : LatLng α

/-- What came back for the tiles of a range. -/
structure Fetched where
  images : List (Tile × Image) := []
  failed : Nat := 0
  missing : Nat := 0

namespace TileServer

/-- Tiles in one pass at most. -/
def mostTiles : Int := 400

/-- The lowest zoom of a pass. -/
def leastZoom : Int := 1

/-- The highest zoom of a pass. -/
def mostZoom : Int := 17

/-- Up to this zoom missing tiles are no reason to go lower. -/
def coveredZoom : Nat := 12

/-- How many failures of one pass are printed. -/
def printedFailures : Nat := 3

/-- The reply that says that there is no such tile. -/
def missingCode : Int := 404

-- ================================================================ fetching

/-- Counts a failure, and prints it if it is one of the first. -/
def countFailure (f : Fetched) (tile : Tile) (reason : String) : Work DownloadNote Fetched := do
  if f.failed < printedFailures then
    Work.note (.line ("      Tile " ++ toString tile.x ++ "," ++ toString tile.y ++ ": " ++ reason))
  return { f with failed := f.failed + 1 }

/-- Asks for one tile. -/
def fetchTile (s : TileServer) (zoom : Nat) (style : Json) (f : Fetched) (tile : Tile) :
    Work DownloadNote Fetched := do
  let address ← Address.ofTemplate s.template zoom tile.x tile.y style
  Work.note (.requested address)
  match s.reply address with
  | .image i => return { f with images := f.images ++ [(tile, i)] }
  | .status code =>
    if code = missingCode then return { f with missing := f.missing + 1 }
    else countFailure f tile ("HTTP " ++ toString code)
  | .unreachable reason => countFailure f tile reason

/-- Asks for all tiles of a range, row by row. -/
def fetch (s : TileServer) (zoom : Nat) (style : Json) (range : TileRange) :
    Work DownloadNote Fetched :=
  range.tiles.foldlM (s.fetchTile zoom style) {}

-- ================================================================= joining

/-- The white ground that the tiles of a range are pasted on. -/
def blank (range : TileRange) : Image :=
  .even (range.columns * 256).toNat (range.rows * 256).toNat .white

/-- The tiles of a range side by side, each in its place from the first tile of the
range; white where one is missing. -/
def joined (range : TileRange) (f : Fetched) : Image :=
  f.images.foldl (fun canvas (tile, i) =>
    canvas.paste i ((tile.x - range.xMin) * 256) ((tile.y - range.yMin) * 256)) (blank range)

variable {α : Type} [Scalar α] [Elementary α]

/-- The window cut out of the joined tiles. -/
def cutOut (range : TileRange) (w : Window α) (f : Fetched) : Except Fault Image := do
  let originX : α := Scalar.ofInt (range.xMin * 256)
  let originY : α := Scalar.ofInt (range.yMin * 256)
  let left ← Scalar.round? (w.left - originX)
  let top ← Scalar.round? (w.top - originY)
  let right ← Scalar.round? (w.right - originX)
  let bottom ← Scalar.round? (w.bottom - originY)
  return (joined range f).crop left top right bottom

/-- The most pixels that are cut out at once. -/
def mostPixels : Nat := 178956970

/-- The map of the tiles that came back. -/
def finish (s : TileServer) (r : MapRequest α) (zoom : Nat) (range : TileRange) (w : Window α)
    (f : Fetched) : Outcome (Basemap α) := do
  if f.images.isEmpty then throw (.noTiles f.failed f.missing)
  let cut ← (cutOut range w f : Outcome Image)
  if cut.width = 0 ∨ cut.height = 0 then throw (.foreign "ValueError" "box can't be empty")
  if mostPixels < cut.width * cut.height then throw (.windowTooLarge (cut.width * cut.height))
  let northWest ← (Tile.corner (.whole range.xMin) (.whole range.yMin) zoom : Outcome (LatLng α))
  let southEast ←
    (Tile.corner (.whole (range.xMax + 1)) (.whole (range.yMax + 1)) zoom : Outcome (LatLng α))
  return { image := s.resize cut r.width.toNat r.height.toNat, zoom, source := s.template
           northWest, southEast }

-- ================================================================== passes

/-- One pass at a zoom; no map means that the next lower zoom is tried. -/
def pass (s : TileServer) (r : MapRequest α) (zoom : Nat) : Work DownloadNote (Option (Basemap α)) := do
  let factor ← (Elementary.powerOfTwo? (r.zoom - Scalar.ofInt zoom) : Outcome α)
  let width ← (Scalar.quotient? (Scalar.ofInt r.width) factor : Outcome α)
  let height ← (Scalar.quotient? (Scalar.ofInt r.height) factor : Outcome α)
  let (range, window) ← (Tile.around r.center zoom width height : Outcome (TileRange × Window α))
  let size := toString range.size
  Work.note (.line ("    Need " ++ size ++ " tiles at zoom " ++ toString zoom ++ "..."))
  if mostTiles < range.size ∧ leastZoom < zoom then
    Work.note (.line ("    Too many tiles, reducing zoom level to " ++ toString (zoom - 1)))
    return none
  let fetched ← s.fetch zoom r.style range
  if range.size < 2 * fetched.missing ∧ coveredZoom < zoom then
    Work.note (.line ("    " ++ toString fetched.missing ++ "/" ++ size
      ++ " tiles not found, trying zoom " ++ toString (zoom - 1) ++ "..."))
    return none
  Work.note (.line ("    Downloaded " ++ toString fetched.images.length ++ "/" ++ size ++ " tiles"))
  return some (← s.finish r zoom range window fetched)

/-- Passes from a zoom downwards. -/
def passes (s : TileServer) (r : MapRequest α) : Nat → Work DownloadNote (Basemap α)
  | 0 => do
    match ← s.pass r 0 with
    | some map => return map
    | none => Work.fail (.noTiles 0 0)
  | zoom + 1 => do
    match ← s.pass r (zoom + 1) with
    | some map => return map
    | none => passes s r zoom

/-- The zoom of the first pass. -/
def firstZoom (zoom : α) : Except Fault Nat := do
  let n ← Scalar.floor? zoom
  return (max leastZoom (min mostZoom n)).toNat

/-- Downloads a base map. -/
def download (s : TileServer) (r : MapRequest α) : Work DownloadNote (Basemap α) := do
  if r.width ≤ 0 ∨ r.height ≤ 0 then Work.fail (.basemapSize r.width r.height)
  let zoom ← (firstZoom r.zoom : Outcome Nat)
  s.passes r zoom

end TileServer

/-- The address under which the PNG form of an image, in base 64, is put
into a drawing. -/
def embeddedPng (base64 : String) : String := "data:image/png;base64," ++ base64

end MapSheets
