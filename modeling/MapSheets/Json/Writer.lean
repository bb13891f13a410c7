import MapSheets.Json.Value

/-
JSON text. One line, a blank after every comma and colon, ASCII only: what
lies outside is escaped in units of sixteen bits.
-/

namespace MapSheets.Json

/-- The escape of one unit of sixteen bits. -/
def unitEscape (n : Nat) : List Char := '\\' :: 'u' :: Text.hexadecimal 4 n

/-- A character inside a written string. -/
def writeChar (c : Char) : List Char :=
  if c = '"' then ['\\', '"']
  else if c = '\\' then ['\\', '\\']
  else if c = '\n' then ['\\', 'n']
  else if c = '\r' then ['\\', 'r']
  else if c = '\t' then ['\\', 't']
  else if c = '\x0c' then ['\\', 'f']
  else if c = '\x08' then ['\\', 'b']
  else if 32 ≤ c.toNat ∧ c.toNat < 127 then [c]
  else if c.toNat < 0x10000 then unitEscape c.toNat
  else
    let n := c.toNat - 0x10000
    unitEscape (0xD800 + n / 0x400) ++ unitEscape (0xDC00 + n % 0x400)

/-- A string in quotes. -/
def writeString (s : String) : String :=
  String.ofList ('"' :: s.toList.flatMap writeChar ++ ['"'])

/-- Numbers in JSON text: as elsewhere, with long names for what is not finite. -/
def numberStyle : Decimal.Style :=
  { Decimal.plainStyle with undefined := "NaN", infinite := "Infinity" }

mutual
/-- The text of a value. -/
def write : Json → String
  | null => "null"
  | bool true => "true"
  | bool false => "false"
  | int n => toString n
  | float x => numberStyle.text x
  | str s => writeString s
  | arr elements => "[" ++ ", ".intercalate (writeElements elements) ++ "]"
  | obj fields => "\x7b" ++ ", ".intercalate (writeFields fields) ++ "\x7d"

/-- The texts of the elements of a list. -/
def writeElements : List Json → List String
  | [] => []
  | v :: rest => write v :: writeElements rest

/-- The texts of the fields of an object. -/
def writeFields : List (String × Json) → List String
  | [] => []
  | (n, v) :: rest => (writeString n ++ ": " ++ write v) :: writeFields rest
end

end MapSheets.Json
