import MapSheets.Number.Reading
import MapSheets.Template.Layout

/-
Numbers in a layout. A number in print is its sign, a mark of its base, its
digits in groups, and a tail that follows them; the width is filled up outside
these, or behind sign and mark. Zeros that fill up the digits are grouped with
them.
-/

namespace MapSheets.Layout

/-- The parts of a number in print. -/
structure Figure where
  isNegative : Bool
  /-- The mark of the base. -/
  mark : List Char := []
  digits : List Char
  tail : List Char := []

/-- Digits from the last to the first in groups, with zeros until they are wide
enough. The count bounds the groups. -/
def groups (separator : Char) (size : Nat) : Nat → Int → List Char → List Char
  | 0, _, digits => digits
  | count + 1, least, digits =>
    let length := min size (max (max digits.length least.toNat) 1)
    let group := digits.take length
    let rest := digits.drop length
    let shown := group ++ List.replicate (length - group.length) '0'
    if rest.isEmpty && least ≤ length then shown
    else shown ++ separator :: groups separator size count (least - length - 1) rest

/-- Digits with their separators, and with zeros in front up to a width. -/
def grouped (separator : Option Char) (size : Nat) (least : Int) (digits : List Char) :
    List Char :=
  match separator with
  | some s => (groups s size (digits.length + least.toNat + 1) least digits.reverse).reverse
  | none => List.replicate (least.toNat - digits.length) '0' ++ digits

/-- The digits of a group in bases other than ten. -/
def baseGroup : Nat := 4

/-- The digits of a group in base ten. -/
def tenGroup : Nat := 3

/-- The sign that is shown. -/
def shownSign (l : Layout) (isNegative : Bool) : List Char :=
  match l.sign with
  | some '+' => if isNegative then ['-'] else ['+']
  | some ' ' => if isNegative then ['-'] else [' ']
  | _ => if isNegative then ['-'] else []

/-- Lays out a number with groups of some size. -/
def figure (l : Layout) (size : Nat) (f : Figure) : List Char :=
  let sign := l.shownSign f.isNegative
  let taken := sign.length + f.mark.length + f.tail.length
  let least : Int := if l.fill = '0' && l.side = .apart then (l.width : Int) - taken else 0
  let digits := if f.digits.isEmpty then [] else grouped l.separator size least f.digits
  let gap := l.width - (taken + digits.length)
  let body := digits ++ f.tail
  match l.side with
  | .left => sign ++ f.mark ++ body ++ l.filling gap
  | .right => l.filling gap ++ sign ++ f.mark ++ body
  | .middle => l.filling (gap / 2) ++ sign ++ f.mark ++ body ++ l.filling (gap - gap / 2)
  | .apart => sign ++ f.mark ++ l.filling gap ++ body

/-- The character of a number. -/
def character (l : Layout) (n : Int) : Outcome (List Char) := do
  if l.sign.isSome then
    throw (.templateInvalid "Sign not allowed with integer format specifier 'c'")
  if l.marked then
    throw (.templateInvalid "Alternate form (#) not allowed with integer format specifier 'c'")
  if n < -(twoTo 63 : Int) || (twoTo 63 : Int) ≤ n then throw (.fault .wholeTooLarge)
  if n < 0 || 0x110000 ≤ n then throw .characterAbsent
  return l.figure tenGroup { isNegative := false, digits := [], tail := [Char.ofNat n.toNat] }

/-- Lays out a whole number in a base. -/
def inBase (l : Layout) (base : Nat) (mark : Option Char) (n : Int) : List Char :=
  let digits := Nat.toDigits base n.natAbs
  let shown := if l.kind = some 'X' then digits.map Char.toUpper else digits
  let mark := match mark with
    | some c => if l.marked then ['0', c] else []
    | none => []
  l.figure (if base = 10 then tenGroup else baseGroup)
    { isNegative := n < 0, mark, digits := shown }

/-- Lays out a whole number. -/
def whole (l : Layout) (n : Int) : Outcome (List Char) := do
  l.refuseWide
  if l.places.isSome then
    throw (.templateInvalid "Precision not allowed in integer format specifier")
  if l.plainZero then
    throw (.templateInvalid "Negative zero coercion (z) not allowed in integer format specifier")
  match l.kind with
  | some 'c' => l.character n
  | some 'b' => return l.inBase 2 (some 'b') n
  | some 'o' => return l.inBase 8 (some 'o') n
  | some 'x' => return l.inBase 16 (some 'x') n
  | some 'X' => return l.inBase 16 (some 'X') n
  | _ => return l.inBase 10 none n

-- ================================================================== reals

/-- Drops the zeros at the end of a fraction, and its point if nothing is left. -/
def withoutZeros (cs : List Char) : List Char :=
  if cs.contains '.' then
    match cs.reverse.dropWhile (· == '0') with
    | '.' :: rest => rest.reverse
    | rest => rest.reverse
  else cs

/-- The digits of a number and the exponent behind them. -/
def atExponent (s : String) : List Char × List Char := s.toList.span (· != 'e')

/-- A number in significant digits: plain where its exponent is moderate, which
is below the count of digits less some reserve, and without idle zeros unless
they are asked for. -/
def significantText (l : Layout) (digits reserve : Nat) (x : Float) : List Char :=
  let digits := max digits 1
  let (front, back) := atExponent (Decimal.scientific (digits - 1) x)
  let trim (cs : List Char) : List Char := if l.marked then cs else withoutZeros cs
  match Reading.int? (String.ofList (back.drop 1)) with
  | none => front
  | some exponent =>
    if -4 ≤ exponent && exponent + reserve < digits then
      trim (Decimal.fixed ((digits : Int) - 1 - exponent).toNat x).toList
    else trim front ++ back

/-- Puts a point behind the digits where it was asked for and there is none. -/
def withMark (l : Layout) (cs : List Char) : List Char :=
  let (front, back) := cs.span (· != 'e')
  if l.marked && !front.contains '.' && front.all Char.isDigit then front ++ '.' :: back else cs

/-- The places of a real number where none are told. -/
def usualPlaces : Nat := 6

/-- The text of a real number without its sign. -/
def realText (l : Layout) (x : Float) : List Char :=
  let places := l.places.getD usualPlaces
  match l.kind with
  | some 'e' | some 'E' => l.withMark (Decimal.scientific places x).toList
  | some 'f' | some 'F' => l.withMark (Decimal.fixed places x).toList
  | some '%' => l.withMark (Decimal.fixed places (x * 100)).toList ++ ['%']
  | some _ => l.withMark (l.significantText places 0 x)
  | none => l.withMark <| match l.places with
    | none => (NumberText.shortest x).toList
    | some digits =>
      -- a digit behind the point is kept
      let cs := l.significantText digits 1 x
      if cs.all Char.isDigit then cs ++ ['.', '0'] else cs

/-- Lays out a real number. -/
def real (l : Layout) (x : Float) : Outcome (List Char) := do
  l.refuseWide
  let isNegative := (NumberText.shortest x).startsWith "-"
  let text := l.realText x.abs
  let text := if [some 'E', some 'F', some 'G'].contains l.kind then text.map Char.toUpper
    else text
  let isNought := text.all fun c => !c.isDigit || c == '0'
  let (digits, tail) := text.span Char.isDigit
  return l.figure tenGroup
    { isNegative := isNegative && !(l.plainZero && isNought), digits, tail }

/-- The kinds that print a whole number. -/
def wholeKinds : List Char := ['b', 'c', 'd', 'o', 'x', 'X', 'n']

/-- The kinds that print a real number. -/
def realKinds : List Char := ['e', 'E', 'f', 'F', 'g', 'G', '%']

/-- Lays out a whole number, as a real one where the kind asks for that. -/
def wholeOrReal (l : Layout) (thing : String) (n : Int) : Outcome (List Char) := do
  match l.kind with
  | none => l.whole n
  | some kind =>
    if wholeKinds.contains kind then l.whole n
    else if realKinds.contains kind then l.real (← (Scalar.ofInt? n : Except Fault Float))
    else throw (unknownKind thing kind)

/-- Lays out a real number, which has no whole kinds. -/
def onlyReal (l : Layout) (x : Float) : Outcome (List Char) :=
  match l.kind with
  | none => l.real x
  | some kind =>
    if realKinds.contains kind || kind == 'n' then l.real x
    else .error (unknownKind "float" kind)

end MapSheets.Layout
