import MapSheets.Text.Parts

/-
Paint of a drawing. A line or an area is painted in a color, which is told
by its name, by hexadecimal digits or by three parts, or in what another
element of the drawing holds.
-/

namespace MapSheets.Color

/-- The names of colors. -/
def names : List String :=
  ["aliceblue", "antiquewhite", "aqua", "aquamarine", "azure", "beige", "bisque", "black",
   "blanchedalmond", "blue", "blueviolet", "brown", "burlywood", "cadetblue", "chartreuse",
   "chocolate", "coral", "cornflowerblue", "cornsilk", "crimson", "cyan", "darkblue", "darkcyan",
   "darkgoldenrod", "darkgray", "darkgreen", "darkgrey", "darkkhaki", "darkmagenta",
   "darkolivegreen", "darkorange", "darkorchid", "darkred", "darksalmon", "darkseagreen",
   "darkslateblue", "darkslategray", "darkslategrey", "darkturquoise", "darkviolet", "deeppink",
   "deepskyblue", "dimgray", "dimgrey", "dodgerblue", "firebrick", "floralwhite", "forestgreen",
   "fuchsia", "gainsboro", "ghostwhite", "gold", "goldenrod", "gray", "grey", "green",
   "greenyellow", "honeydew", "hotpink", "indianred", "indigo", "ivory", "khaki", "lavender",
   "lavenderblush", "lawngreen", "lemonchiffon", "lightblue", "lightcoral", "lightcyan",
   "lightgoldenrodyellow", "lightgray", "lightgreen", "lightgrey", "lightpink", "lightsalmon",
   "lightseagreen", "lightskyblue", "lightslategray", "lightslategrey", "lightsteelblue",
   "lightyellow", "lime", "limegreen", "linen", "magenta", "maroon", "mediumaquamarine",
   "mediumblue", "mediumorchid", "mediumpurple", "mediumseagreen", "mediumslateblue",
   "mediumspringgreen", "mediumturquoise", "mediumvioletred", "midnightblue", "mintcream",
   "mistyrose", "moccasin", "navajowhite", "navy", "oldlace", "olive", "olivedrab", "orange",
   "orangered", "orchid", "palegoldenrod", "palegreen", "paleturquoise", "palevioletred",
   "papayawhip", "peachpuff", "peru", "pink", "plum", "powderblue", "purple", "red", "rosybrown",
   "royalblue", "saddlebrown", "salmon", "sandybrown", "seagreen", "seashell", "sienna", "silver",
   "skyblue", "slateblue", "slategray", "slategrey", "snow", "springgreen", "steelblue", "tan",
   "teal", "thistle", "tomato", "turquoise", "violet", "wheat", "white", "whitesmoke", "yellow",
   "yellowgreen"]

/-- Whether a character is a hexadecimal digit. -/
def isHexDigit (c : Char) : Bool :=
  c.isDigit || ('a' ≤ c && c ≤ 'f') || ('A' ≤ c && c ≤ 'F')

/-- Whether characters are a whole number with or without a sign. -/
def isWhole : List Char → Bool
  | '+' :: ds | '-' :: ds | ds => !ds.isEmpty && ds.all Char.isDigit

/-- Whether characters are a number without a power of ten. -/
def isDecimal (cs : List Char) : Bool :=
  match cs.span (· != '.') with
  | (whole, '.' :: places) => (whole.isEmpty || isWhole whole) && !places.isEmpty && places.all Char.isDigit
  | _ => isWhole cs

/-- Whether characters are a number and a percent sign. -/
def isPercentage (cs : List Char) : Bool :=
  match cs.reverse with
  | '%' :: rest => isDecimal rest.reverse
  | _ => false

/-- What stands between an opening with a bracket and a closing bracket at the
end. -/
def within? (opening : String) (s : String) : Option (List Char) :=
  if s.startsWith opening && s.endsWith ")" then
    some (((s.toList.drop opening.length).reverse.drop 1).reverse)
  else none

/-- Characters cut at every comma, blanks around the parts left out. -/
def parts (cs : List Char) : List (List Char) := (Text.cutAt (· == ',') cs).map Text.trimmed

/-- Whether a text is a color: its name, a number sign and three or six
hexadecimal digits, or three whole numbers or percentages in brackets. -/
def isColor (s : String) : Bool :=
  match s.toList with
  | '#' :: digits => (digits.length == 3 || digits.length == 6) && digits.all isHexDigit
  | _ =>
    match within? "rgb(" s with
    | some inner =>
      let ps := parts inner
      ps.length == 3 && (ps.all isWhole || ps.all isPercentage)
    | none => names.contains s

/-- Whether a text refers to an element. -/
def isReference (s : String) : Bool :=
  match within? "url(" (Text.trim s) with
  | some inner => !(Text.trimmed inner).isEmpty
  | none => false

/-- The words of paint: what stands before a closing bracket belongs together,
the rest is parted at blanks. -/
def words (fuel : Nat) (cs : List Char) : List String :=
  match fuel, cs.span (· != ')') with
  | fuel + 1, (before, ')' :: after) =>
    Text.trim (String.ofList (before ++ [')'])) :: words fuel after
  | _, _ => (Text.words cs).map String.ofList

/-- Whether a text is paint. -/
def isPaint (s : String) : Bool :=
  let cs := Text.trimmed s.toList
  (words cs.length cs).all fun word =>
    isColor word || isReference word || ["none", "currentColor", "inherit"].contains word

end MapSheets.Color
