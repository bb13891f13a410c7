import MapSheets.Failure
import MapSheets.Text.Blank
import MapSheets.Text.Digit

/-
Map sheet identifiers. A sheet has a text and, where it is one part of a
larger sheet, the number of the part. The printed form puts a colon between
them; reading accepts a hyphen as well, and takes the last colon before the
last hyphen. What follows the mark must be digits, otherwise the whole text
is the identifier; a number of more digits than are read is refused.
-/

namespace MapSheets

/-- The identifier of a sheet; part zero is the whole sheet. -/
structure Mdgid where
  id : String
  part : Int
  deriving DecidableEq, Repr

namespace Mdgid

/-- The identifier of a whole sheet. -/
def whole (id : String) : Mdgid := ⟨id, 0⟩

/-- The same sheet without its part. -/
def withoutPart (m : Mdgid) : Mdgid := whole m.id

/-- Identifier and part with a mark between them; only parts above zero show. -/
def joined (mark : String) (text : String) (part : Int) : String :=
  if 0 < part then text ++ mark ++ toString part else text

/-- The printed form. -/
def text (m : Mdgid) : String := joined ":" m.id m.part

/-- Cuts a list of characters at the last mark: what stands before it and
what stands after it. -/
def splitLast (mark : Char) : List Char → Option (List Char × List Char)
  | [] => none
  | c :: rest =>
    match splitLast mark rest with
    | some (before, after) => some (c :: before, after)
    | none => if c = mark then some ([], rest) else none

/-- Whether characters are digits, one at least. -/
def isNumber (cs : List Char) : Bool := !cs.isEmpty && cs.all Char.isDigit

/-- Identifier and digits of the part around the last mark of a text, a colon
before a hyphen; `none` where no digits follow. -/
def splitPart? (cs : List Char) : Option (List Char × List Char) := do
  let (before, after) ← splitLast ':' cs <|> splitLast '-' cs
  if isNumber after then some (before, after) else none

/-- The number that the digits of a part write. -/
def partNumber (digits : List Char) : Outcome Nat :=
  if Text.mostDigits < digits.length then .error (.fault (.tooManyDigits digits.length))
  else .ok (Text.numeral (digits.map fun c => c.toNat - 48))

/-- Reads an identifier. Blanks around the text do not count. -/
def parse (text : String) : Outcome Mdgid :=
  let cs := Text.trimmed text.toList
  match splitPart? cs with
  | some (before, digits) => do return ⟨String.ofList before, ← partNumber digits⟩
  | none => .ok (whole (String.ofList cs))

end Mdgid

end MapSheets
