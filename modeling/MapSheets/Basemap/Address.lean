import MapSheets.Template.Gap

/-
Addresses of tiles. A tile server is told by a template with gaps for the
zoom, the column, the row and the style.
-/

namespace MapSheets.Address

/-- The template of the server that is asked where no other is configured. -/
def standard : String := "https://tile.opentopomap.org/\x7bz\x7d/\x7bx\x7d/\x7by\x7d.png"

/-- The address of a tile. Only a text is a template. -/
def ofTemplate (template : Json) (zoom : Int) (x y : Int) (style : Json) : Outcome String :=
  match template with
  | .str text => Template.fill [("z", .int zoom), ("x", .int x), ("y", .int y), ("style", style)] text
  | v => .error (.partAbsent ("'" ++ v.kindName ++ "' object has no attribute 'format'"))

end MapSheets.Address
