import MapSheets.Json.Value

/-
Digests in exchange. A digest is forty hexadecimal digits; as it tells of the
moment in which it was made, a mark stands for it.
-/

namespace MapSheets.Exchange

/-- How many hexadecimal digits a digest has. -/
def digestLength : Nat := 40

/-- What stands for a digest. -/
def digestMark : String := "<sha1>"

/-- Whether a character is a digit of a digest. -/
def isDigestDigit (c : Char) : Bool := c.isDigit || ('a' ≤ c && c ≤ 'f')

/-- Whether a text is a digest. -/
def isDigest (s : String) : Bool := s.length == digestLength && s.all isDigestDigit

/-- Marks digests in a text, as far as the fuel reaches; each step takes one
character at least. -/
def markDigests (fuel : Nat) (cs : List Char) : List Char :=
  match fuel, cs with
  | 0, _ => cs
  | _, [] => []
  | fuel + 1, c :: rest =>
    let head := cs.take digestLength
    if head.length == digestLength && head.all isDigestDigit then
      digestMark.toList ++ markDigests fuel (cs.drop digestLength)
    else c :: markDigests fuel rest

/-- A text with its digests marked. -/
def markedText (s : String) : String := String.ofList (markDigests s.length s.toList)

end MapSheets.Exchange
