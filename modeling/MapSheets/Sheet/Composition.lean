import MapSheets.Drawing.GratingMarks
import MapSheets.Drawing.Layers
import MapSheets.Drawing.TrellisMarks
import MapSheets.Json.Access
import MapSheets.Sheet.Context
import MapSheets.Trellis.Basic

/-
The composition of a sheet. The map frame stands in the middle of the page;
in it lie the base map, the grating, the bars of the trellis and the labels
along them, and around it the outline, the coordinates, the corners and the
marginalia.
-/

namespace MapSheets

namespace Sheet

variable {α : Type} [Scalar α]

-- ==================================================================== parts

/-- A number of a grating that is drawn, which must be whole. -/
def gratingCount : Json → Outcome Int
  | .int n => .ok n
  | .bool b => .ok b.toNat
  | v => .error (.wrongOperand ("'" ++ v.kindName ++ "' object cannot be interpreted as an integer"))

/-- An index among the values of a setting. A fraction counts as its text. -/
def index [NumberReading α] : Json → Outcome (Amount α)
  | .int n => .ok (.whole n)
  | .bool b => .ok (.flag b)
  | .float x =>
    match NumberReading.read? (NumberText.shortest x) with
    | some y => .ok (.real y)
    | none => .error (.fault (.unreadable (NumberText.shortest x)))
  | v => .error (.wrongOperand ("unsupported operand type(s) for -: '" ++ v.kindName ++ "' and 'int'"))

/-- The indexes of a setting; what counts as no has none. -/
def labelIndexes [NumberReading α] (setting : Json) : Trellis.LabelIndexes α :=
  if setting.isTruthy then setting.members.map fun vs => vs.map index else .ok []

/-- A text in the margin. -/
def marginText (p : Point α) (size : Nat) (extra : List (String × AttributeValue α))
    (content : String) : Element α :=
  Element.textAt p content (extra ++ [("font-size", .whole size),
    ("font-family", .text "sans-serif"), ("fill", .text "black")]) []

/-- Texts with something between them, those that are empty left out. -/
def joinFilled (mark : String) (texts : List String) : String :=
  mark.intercalate (texts.filter (· != ""))

/-- The base map, stretched over the frame. -/
def basemapElement (box : PixelBox α) (address : String) : Element α :=
  .node "image" [("x", .number box.starting.x), ("y", .number box.starting.y),
    ("width", .number box.width), ("height", .number box.height),
    ("preserveAspectRatio", .text "none"), ("xlink:href", .text address)] none []

/-- The coordinates of the corners, outside the frame. -/
def cornerElements (box : PixelBox α) (c : SheetContext α) : List (Element α) :=
  let outer := box.bounds.expand (3 * box.topBuffer)
  let label (x y : α) (anchor lat lng : String) : Element α :=
    marginText ⟨x, y⟩ 10 [("text-anchor", .text anchor)] (lat ++ " " ++ lng)
  let below := outer.maxY + 12
  [label outer.minX outer.minY "start" c.northEastDms.lat c.southWestDms.lng,
   label outer.maxX outer.minY "end" c.northEastDms.lat c.northEastDms.lng,
   label outer.minX below "start" c.southWestDms.lat c.southWestDms.lng,
   label outer.maxX below "end" c.southWestDms.lat c.northEastDms.lng]

variable [NumberText α]

/-- What is drawn of the grating of a sheet over a page of a width and a height. -/
def gratingMarks (s : Sheet α) (width height : α) (box : PixelBox α) :
    Outcome (GratingMarks α) := do
  let rows ← gratingCount s.gratingRows
  let cols ← gratingCount s.gratingCols
  let g ← Grating.ofBox 0 0 width height rows cols false false
  g.marks box gratingColor (.number (Scalar.ratio 1 2)) (.whole 10)

/-- The lines below the frame. -/
def marginLines (c : SheetContext α) : Except Fault (List String) := do
  let scale ← Scalar.round? c.scale
  return ["Scale 1:" ++ toString scale,
      "UTM zone " ++ c.zone ++ c.hemisphere ++ "  grid " ++ c.spacing.text ++ " m  "
        ++ c.militaryReference,
      "MDGID " ++ c.mdgid]
    ++ (if c.country = "" ∧ c.city = "" then [] else [joinFilled ", " [c.city, c.country]])
    ++ (if c.editor = "" ∧ c.editedAt = "" then []
        else [Text.trim ("Edited " ++ c.editedAt ++ " " ++ c.editor)])

/-- The texts of lines below each other. -/
def lineElements (x : α) : α → List String → List (Element α)
  | _, [] => []
  | y, line :: rest => marginText ⟨x, y⟩ 14 [] line :: lineElements x (y + 18) rest

/-- The title above the frame and the lines below it. -/
def marginElements (box : PixelBox α) (c : SheetContext α) : Except Fault (List (Element α)) := do
  let number := if c.sheetNumber = "" then c.referenceNumber else c.sheetNumber
  let title := marginText ⟨box.starting.x, box.starting.y - 8 * box.topBuffer⟩ 28
    [("font-weight", .text "bold")] (joinFilled " " [c.series, number])
  let lines ← marginLines c
  return title :: lineElements box.starting.x (box.ending.y + 8 * box.bottomBuffer) lines

-- =================================================================== layers

/-- The layers of a sheet: name, height in the stack, whether inside the frame. -/
def layerPlan : List (String × Int × Bool) :=
  [("Basemap", 10, true), ("Grating", 100, true), ("Grating_Labels", 110, true),
   ("Trellis_Bars", 200, true), ("Trellis_Inner_Labels", 210, true), ("Frame", 1000, false),
   ("Trellis_Labels", 1010, false), ("Corner_Labels", 1020, false), ("Marginalia", 1100, false)]

/-- The empty layers of a sheet. The layers of a grating that is not drawn
are there, but hidden. -/
def emptyLayers (showGrating : Bool) : Outcome (Layers α) :=
  layerPlan.foldlM (fun layers (id, zOrder, inFrame) =>
    layers.register id zOrder inFrame (showGrating || !id.startsWith "Grating")) Layers.empty

/-- The attributes of a whole drawing. -/
def rootAttributes (width height : Amount α) (canvasWidth canvasHeight : Int) :
    List (String × AttributeValue α) :=
  [("baseProfile", .text "full"), ("version", .text "1.1"),
   ("width", .text (width.text ++ "mm")), ("height", .text (height.text ++ "mm")),
   ("viewBox", .text ("0 0 " ++ toString canvasWidth ++ " " ++ toString canvasHeight)),
   ("xmlns", .text "http://www.w3.org/2000/svg"),
   ("xmlns:ev", .text "http://www.w3.org/2001/xml-events"),
   ("xmlns:xlink", .text "http://www.w3.org/1999/xlink")]

-- ============================================================== composition

/-- The frame of a trellis in the middle of a canvas. -/
def frameBox (t : Trellis α) (ground : α) (canvasWidth canvasHeight : Int) :
    Except Fault (PixelBox α) := do
  let width ← Scalar.quotient? t.pageWidth ground
  let height ← Scalar.quotient? t.pageHeight ground
  PixelBox.ofPage ((Scalar.ofInt canvasWidth - width) / 2) ((Scalar.ofInt canvasHeight - height) / 2)
    t.pageWidth t.pageHeight ground PixelBox.labelGap

variable [Elementary α] [Survey α] [NumberReading α] [Exact α]

/-- The trellis of a cell's frame. -/
def trellisOf (s : Sheet α) (c : Cell α) : Outcome (Trellis α) := do
  Trellis.ofCell .standard (← (s.gridSpacing : Outcome Spacing)) c

/-- The drawing of a sheet over a base map, which is told by its address. -/
def compose (s : Sheet α) (c : Cell α) (t : Trellis α) (basemap : Option String) :
    Outcome (Element α) := do
  let context ← SheetContext.ofCell c s
  let canvasWidth ← (s.widthInPixels none : Outcome Int)
  let canvasHeight ← (s.heightInPixels none : Outcome Int)
  let ground ← (s.groundPixel : Outcome α)
  let box ← (frameBox t ground canvasWidth canvasHeight : Outcome (PixelBox α))
  let page := Bounds.page t.pageWidth t.pageHeight
  let showGrating := s.drawGrating.isTruthy
  let root := rootAttributes s.width s.height canvasWidth canvasHeight
  (Element.node "svg" root none []).refuseInvalid
  let layers ← emptyLayers showGrating
  let layers := layers.draw "Basemap" ((basemap.map (basemapElement box)).toList)
  let layers ←
    if showGrating then do
      let marks ← s.gratingMarks t.pageWidth t.pageHeight box
      pure ((layers.draw "Grating" marks.lines).draw "Grating_Labels" marks.labels)
    else pure layers
  let bars ← barElements box (some page) ((t.northingBars ++ t.eastingBars).map (·.line)) "#000000"
    (.number (Scalar.ratio 1 2))
  let labels ← t.labels box (labelIndexes s.labelRows) (labelIndexes s.labelCols)
  let outer ← PlacedLabel.elements labels.outer
  let inner ← PlacedLabel.elements labels.inner
  let corners ← Element.allValid (cornerElements box context)
  let margin ← Element.allValid (← (marginElements box context : Outcome (List (Element α))))
  let layers := [("Trellis_Bars", bars), ("Trellis_Inner_Labels", inner),
      ("Frame", [frameElement box "#000000" (.number (Scalar.ratio 3 2))]),
      ("Trellis_Labels", outer), ("Corner_Labels", corners),
      ("Marginalia", margin)].foldl (fun (ls : Layers α) (id, es) => ls.draw id es) layers
  let frame := box.bounds
  let clip := Element.node "clipPath" [("id", .text "frame-clip")] none
    [Element.rect (.number frame.minX) (.number frame.minY) (.number frame.width)
      (.number frame.height) []]
  let background := Element.rect (.whole 0) (.whole 0) (.whole canvasWidth) (.whole canvasHeight)
    [("fill", .text "white"), ("id", .text "page")]
  let assembled ← layers.assemble "Map_Frame" "url(#frame-clip)"
  return Element.node "svg" root none (Element.node "defs" [] none [clip] :: background :: assembled)

end Sheet

end MapSheets
