import MapSheets.Failure
import MapSheets.Text.Digit

/-
Layouts of values in a template. A layout tells how wide a value is printed at
least, on which side it is filled up and with what, and how a number is
written. It is given in one short text, part by part in a fixed order, and
every part may be left out.
-/

namespace MapSheets

/-- Where a value stands in its width. -/
inductive Side where
  | left
  | right
  | middle
  /-- A number fills its width between its sign and its digits. -/
  | apart
  deriving DecidableEq, Repr

/-- The layout of a value. -/
structure Layout where
  fill : Char := ' '
  side : Side
  sign : Option Char := none
  /-- Whether a zero shows no minus. -/
  plainZero : Bool := false
  /-- Whether the form with marks of its own is asked for. -/
  marked : Bool := false
  width : Nat := 0
  separator : Option Char := none
  places : Option Nat := none
  kind : Option Char := none
  deriving DecidableEq, Repr

namespace Layout

/-- The side that a mark stands for. -/
def sideOf? : Char → Option Side
  | '<' => some .left
  | '>' => some .right
  | '^' => some .middle
  | '=' => some .apart
  | _ => none

/-- A character at the start of a text, if it is in a class. -/
def leading (p : Char → Bool) : List Char → Option Char × List Char
  | c :: rest => if p c then (some c, rest) else (none, c :: rest)
  | [] => (none, [])

/-- The greatest number of characters that can be asked for. -/
def greatestCount : Nat := twoTo 63 - 1

/-- A count at the start of a text, if there is one. -/
def count (cs : List Char) : Outcome (Option Nat × List Char) :=
  let digits := (cs.takeWhile fun c => (Text.digitValue? c).isSome).filterMap Text.digitValue?
  let n := Text.numeral digits
  if digits.isEmpty then .ok (none, cs)
  else if greatestCount < n then
    .error (.templateInvalid "Too many decimal digits in format string")
  else .ok (some n, cs.drop digits.length)

/-- The separator of digits; there is one kind at most. -/
def separatorOf (cs : List Char) : Outcome (Option Char × List Char) :=
  let both : Failure := .templateInvalid "Cannot specify both ',' and '_'."
  match cs with
  | ',' :: '_' :: _ | '_' :: ',' :: _ => .error both
  | ',' :: rest => .ok (some ',', rest)
  | '_' :: rest => .ok (some '_', rest)
  | _ => .ok (none, cs)

/-- Whether digits of a kind can have a separator. -/
def takesSeparator (separator : Char) : Option Char → Bool
  | none => true
  | some kind =>
    ['d', 'e', 'f', 'g', 'E', 'G', '%', 'F'].contains kind
      || (separator == '_' && ['b', 'o', 'x', 'X'].contains kind)

/-- A kind as messages show it. -/
def kindText (kind : Char) : String :=
  if 32 < kind.toNat && kind.toNat < 128 then kind.toString
  else "\\x" ++ String.ofList (Nat.toDigits 16 kind.toNat)

/-- Reads the layout of a value of some kind of thing, with the side and the
kind of text that it has where none is told. -/
def read (thing : String) (side : Side) (kind : Option Char) (text : List Char) :
    Outcome Layout := do
  let (fill, ownSide, cs) := match text with
    | c :: d :: rest => match sideOf? d with
      | some s => (some c, some s, rest)
      | none => match sideOf? c with
        | some s => (none, some s, d :: rest)
        | none => (none, none, text)
    | [c] => match sideOf? c with
      | some s => (none, some s, [])
      | none => (none, none, text)
    | [] => (none, none, [])
  let (sign, cs) := leading (fun c => c == '+' || c == '-' || c == ' ') cs
  let (zero, cs) := leading (· == 'z') cs
  let (mark, cs) := leading (· == '#') cs
  let (nought, cs) := if fill.isNone then leading (· == '0') cs else (none, cs)
  let (width, cs) ← count cs
  let (separator, cs) ← separatorOf cs
  let (places, cs) ← match cs with
    | '.' :: rest => do
      match ← count rest with
      | (none, _) => throw (.templateInvalid "Format specifier missing precision")
      | (places, rest) => pure (places, rest)
    | _ => pure (none, cs)
  if 1 < cs.length then
    throw (.templateInvalid ("Invalid format specifier '" ++ String.ofList text
      ++ "' for object of type '" ++ thing ++ "'"))
  let ownKind := cs.head? <|> kind
  match separator with
  | none => pure ()
  | some s =>
    if !takesSeparator s ownKind then
      throw (.templateInvalid ("Cannot specify '" ++ s.toString ++ "' with '"
        ++ kindText (ownKind.getD ' ') ++ "'."))
  let otherwise := if nought.isSome && side = .right then .apart else side
  return {
    fill := (fill <|> nought).getD ' '
    side := ownSide.getD otherwise
    sign
    plainZero := zero.isSome
    marked := mark.isSome
    width := width.getD 0
    separator
    places
    kind := ownKind }

/-- The width from which on nothing is laid out. -/
def widthLimit : Nat := 1000000000

/-- Refuses a width that takes too much room. -/
def refuseWide (l : Layout) : Outcome Unit :=
  if widthLimit ≤ l.width then .error (.foreign "MemoryError" "") else .ok ()

/-- The kind is none that a thing can be printed in. -/
def unknownKind (thing : String) (kind : Char) : Failure :=
  .templateInvalid ("Unknown format code '" ++ kindText kind ++ "' for object of type '"
    ++ thing ++ "'")

/-- As many fill characters as asked for. -/
def filling (l : Layout) (n : Nat) : List Char := List.replicate n l.fill

/-- Lays out a text: cut to its places, then filled up to its width. -/
def text (l : Layout) (cs : List Char) : Outcome (List Char) := do
  l.refuseWide
  if let some kind := l.kind then
    if kind != 's' then throw (unknownKind "str" kind)
  if let some sign := l.sign then
    throw (.templateInvalid ((if sign = ' ' then "Space" else "Sign")
      ++ " not allowed in string format specifier"))
  if l.plainZero then
    throw (.templateInvalid "Negative zero coercion (z) not allowed in string format specifier")
  if l.marked then
    throw (.templateInvalid "Alternate form (#) not allowed in string format specifier")
  let cs := match l.places with
    | some n => cs.take n
    | none => cs
  let gap := l.width - cs.length
  match l.side with
  | .apart => throw (.templateInvalid "'=' alignment not allowed in string format specifier")
  | .left => return cs ++ l.filling gap
  | .right => return l.filling gap ++ cs
  | .middle => return l.filling (gap / 2) ++ cs ++ l.filling (gap - gap / 2)

end Layout

end MapSheets
