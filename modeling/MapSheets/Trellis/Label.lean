import MapSheets.Trellis.Basic

/-
Coordinate labels. The coordinate of a bar is printed in up to five pieces:
the leading digits, the two digits of the label, the trailing digits, the
unit and the side of the globe. Along a side of the frame the first bar
shows all of them, every tenth its leading digits and label, and the rest
the label alone.
-/

namespace MapSheets

/-- The pieces of a coordinate label, in the order in which they are drawn. -/
inductive LabelPiece where
  | leading
  | label
  | trailing
  | unit
  | side
  deriving DecidableEq, Repr

namespace LabelPiece

/-- All pieces in drawing order. -/
def all : List LabelPiece := [leading, label, trailing, unit, side]

end LabelPiece

/-- Which pieces of a label are shown. -/
abbrev Shown := List LabelPiece

/-- A coordinate to be printed at a bar. -/
structure CoordLabel where
  coord : Int
  spacing : Spacing
  unit : String
  side : String

namespace CoordLabel

/-- The coordinate split at the spacing. -/
def parts (l : CoordLabel) : Except Fault SplitCoord := l.spacing.split l.coord

/-- Whether the label ends in a zero. -/
def isTenth (l : CoordLabel) : Except Fault Bool := do
  return (← l.parts).label % 10 = 0

/-- The pieces shown at the bar of an index. -/
def shownAt (l : CoordLabel) (index : Int) : Except Fault Shown := do
  if index = 0 then return LabelPiece.all
  return if ← l.isTenth then [.leading, .label] else [.label]

/-- A number with zeros in front, up to a width that counts a minus sign. -/
def paddedInt (width : Nat) (n : Int) : String :=
  if n < 0 then "-" ++ Decimal.padded (width - 1) n.natAbs else Decimal.padded width n.toNat

section
variable [DecimalLogarithm]

/-- The text of the trailing digits: as many as the spacing has, none for a
spacing of single meters. -/
def trailingText (l : CoordLabel) (trailing : Int) : Except Fault String := do
  let width ← l.spacing.width
  return if width = 0 then "" else paddedInt width trailing

/-- The text of one piece. -/
def pieceText (l : CoordLabel) (parts : SplitCoord) : LabelPiece → Except Fault String
  | .leading => .ok (toString parts.leading)
  | .label => .ok (paddedInt 2 parts.label)
  | .trailing => l.trailingText parts.trailing
  | .unit => .ok l.unit
  | .side => .ok l.side

/-- The texts of the shown pieces in drawing order. -/
def texts (l : CoordLabel) (shown : Shown) : Except Fault (List (LabelPiece × String)) := do
  let parts ← l.parts
  (LabelPiece.all.filter shown.contains).mapM fun piece => do
    return (piece, ← l.pieceText parts piece)

end

variable {α : Type}

/-- The label of an easting bar. -/
def ofEasting (bar : Bar α) (spacing : Spacing) : CoordLabel :=
  { coord := bar.value, spacing, unit := "m", side := if bar.value < 0 then "W." else "E." }

/-- The label of a northing bar. -/
def ofNorthing (bar : Bar α) (spacing : Spacing) : CoordLabel :=
  { coord := bar.value, spacing, unit := "m", side := if bar.value < 0 then "S." else "N." }

end CoordLabel

end MapSheets
