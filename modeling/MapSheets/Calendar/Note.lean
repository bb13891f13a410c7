import MapSheets.Calendar.Moment
import MapSheets.Text.Digit

/-
The short notation of dates in feature files: year, month and day, then a
time of day and its distance from universal time, each part with all its
digits. A note may tell the day alone, the time alone, or both. What follows
a time is not looked at, and a note may name a day that the calendar does not
have.
-/

namespace MapSheets

/-- What a note tells. -/
inductive NoteKind where
  | day
  | time
  | moment
  deriving DecidableEq, Repr

/-- A date or a time as it is noted. -/
structure DateNote where
  kind : NoteKind
  moment : Moment
  deriving DecidableEq, Repr

namespace DateNote

/-- The marks between year, month and day. -/
def isMark (c : Char) : Bool := c == '-' || c == '/'

/-- The number that the digits at the start of a text write. -/
def leadingNumber (cs : List Char) : Nat :=
  Text.numeral ((cs.takeWhile Char.isDigit).map fun c => c.toNat - 48)

/-- Reads two digits. -/
def twoDigits? : List Char → Option (Nat × List Char)
  | a :: b :: rest =>
    if a.isDigit && b.isDigit then some (leadingNumber [a, b], rest) else none
  | _ => none

/-- The year nearest to the present that ends in a year of one or two digits. -/
def withCentury (year : Int) : Int :=
  if year < 30 then year + 2000 else if year < 100 then year + 1900 else year

/-- The greatest year that is noted. -/
def lastYear : Nat := 32767

/-- Reads a year and the mark behind it. The century may be left out. -/
def year? (cs : List Char) : Option (Int × List Char) := do
  let isNegative := cs.head? == some '-'
  let digits := if isNegative then cs.drop 1 else cs
  let size := leadingNumber digits
  if (!isNegative && (digits.takeWhile Char.isDigit).isEmpty) || lastYear < size then none
  let year : Int := if isNegative then -size else size
  let isShort := (cs[1]?).any isMark || (cs[2]?).any isMark
  match digits.dropWhile Char.isDigit with
  | c :: rest => if isMark c then some (if isShort then withCentury year else year, rest) else none
  | [] => none

/-- Reads a date. -/
def day? (cs : List Char) : Option (Moment × List Char) := do
  let (year, rest) ← year? cs
  let (month, rest) ← twoDigits? rest
  match rest with
  | c :: rest =>
    let (day, rest) ← twoDigits? rest
    if isMark c && 1 ≤ month && month ≤ 12 && 1 ≤ day && day ≤ 31 then
      some ({ year, month, day }, rest)
    else none
  | [] => none

/-- The thousandths of a second in the digits behind a point. -/
def thousandths (places : List Char) : Nat :=
  min 999 ((leadingNumber ((places ++ List.replicate 4 '0').take 4) + 5) / 10)

/-- Reads the seconds; there may be one too many. Their zone is told by a `Z`. -/
def seconds? (m : Moment) (cs : List Char) : Option (Moment × List Char) :=
  let second := leadingNumber cs
  if !(cs.head?).any Char.isDigit || 60 < second then none
  else
    let places := match cs.dropWhile Char.isDigit with
      | '.' :: rest => rest.takeWhile Char.isDigit
      | _ => []
    let rest := match cs.drop 2 with
      | '.' :: rest => rest.dropWhile Char.isDigit
      | rest => rest
    let ahead := if rest.head? == some 'Z' then some 0 else none
    some ({ m with second, micro := 1000 * thousandths places, ahead }, rest)

/-- Reads a time of day. Behind a `T` it may stand without colons. -/
def time? (m : Moment) (isMarked : Bool) (cs : List Char) : Option (Moment × List Char) := do
  let (hour, rest) ← twoDigits? cs
  let rest ← match rest with
    | ':' :: rest => some rest
    | rest => if isMarked then some rest else none
  let (minute, rest) ← twoDigits? rest
  if 23 < hour || 59 < minute then none
  let m := { m with hour, minute }
  match rest with
  | ':' :: rest => seconds? m rest
  | c :: _ =>
    if isMarked && c.isDigit then seconds? m rest
    else some ({ m with ahead := if c == 'Z' then some 0 else none }, rest)
  | [] => some (m, [])

/-- The distance from universal time at the end of a note, in minutes. One that
is no multiple of a quarter of an hour is not told. -/
def distance? (cs : List Char) : Option Int :=
  let total (sign : Char) (hours : Nat) (minutes : Nat) : Option Int :=
    let n : Int := 60 * hours + minutes
    if minutes % 15 = 0 then some (if sign == '-' then -n else n) else none
  match cs.dropWhile (· == ' ') with
  | sign :: rest =>
    if sign != '+' && sign != '-' then none
    else if rest.length ≤ 2 then total sign (leadingNumber rest) 0
    else match rest[2]?, rest[3]? with
      | some ':', _ => total sign (leadingNumber rest) (leadingNumber (rest.drop 3))
      | some c, some d =>
        if c.isDigit && d.isDigit then
          total sign (leadingNumber (rest.take 2)) (leadingNumber (rest.drop 2))
        else none
      | some c, none =>
        if c.isDigit then total sign (leadingNumber (rest.take 1)) (leadingNumber (rest.drop 1))
        else none
      | _, _ => none
  | [] => none

/-- A day that stands for none. -/
def noDay : Moment := { year := 1, month := 1, day := 1 }

/-- Reads the date of a note, if it has one, and whether a `T` stands behind it.
The last is whether the note ends with the date. -/
def front? (cs : List Char) : Option (Option Moment × Bool × List Char × Bool) :=
  if cs.any isMark then
    match day? cs with
    | none => none
    | some (m, []) => some (m, false, [], true)
    | some (m, c :: rest) =>
      if c == 'T' then some (m, true, rest, false)
      else if c == 'Z' then some (m, false, [], true)
      else if c == ' ' then some (m, false, rest, false)
      else none
  else some (none, false, cs, false)

/-- Reads the moment of a note. -/
def moment? (cs : List Char) : Option Moment := do
  let (day, isMarked, rest, isDone) ← front? (cs.dropWhile (· == ' '))
  let m := day.getD noDay
  if isDone then return m
  let rest := rest.dropWhile (· == ' ')
  let (isMarked, rest) := match rest with
    | 'T' :: after => (true, after)
    | _ => (isMarked, rest)
  if isMarked || rest.contains ':' then
    let (m, rest) ← time? m isMarked rest
    return { m with ahead := distance? rest <|> m.ahead }
  else if day.isSome && rest.isEmpty then return m
  else none

/-- Reads a note. What it tells goes by its marks. -/
def read? (text : String) : Option DateNote := do
  let cs := text.toList
  let moment ← moment? cs
  let kind : NoteKind :=
    if !cs.any isMark then .time else if cs.contains ':' then .moment else .day
  return { kind, moment }

/-- The longest distance from universal time, in minutes. -/
def farthest : Nat := 24 * 60

/-- Whether the calendar has the moment, and its clock can be set. -/
def isPossible (n : DateNote) : Bool :=
  n.moment.outOfRange?.isNone && n.moment.ahead.all (·.natAbs < farthest)

/-- The note in full. -/
def text (n : DateNote) : String :=
  let m := n.moment
  let year := if m.year < 0 then "-" ++ Decimal.padded 3 m.year.natAbs
    else Decimal.padded 4 m.year.toNat
  let time := [m.hour, m.minute, m.second].map (Decimal.padded 2)
  year ++ "-" ++ Decimal.padded 2 m.month ++ "-" ++ Decimal.padded 2 m.day
    ++ "T" ++ ":".intercalate time
    ++ (if m.micro = 0 then "" else "." ++ Decimal.padded 3 (m.micro / 1000))
    ++ (match m.ahead with
      | none => ""
      | some 0 => "Z"
      | some n => Moment.aheadText n)

end DateNote

end MapSheets
