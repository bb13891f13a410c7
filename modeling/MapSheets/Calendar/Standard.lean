import MapSheets.Calendar.Moment
import MapSheets.Text.Digit

/-
The standard notation of moments: year, month and day from the largest part
to the smallest, then a time of day, then its distance from universal time.
Every part after the year may be left out with all that follow it. With marks
between them, month and day may have a single digit; without marks every part
is written in full.
-/

namespace MapSheets.Moment

/-- The digits at the start of a text, not more than so many. -/
def leadingDigits : Nat → List Char → List Nat × List Char
  | 0, cs => ([], cs)
  | _, [] => ([], [])
  | n + 1, c :: rest =>
    if c.isDigit then
      let (ds, left) := leadingDigits n rest
      ((c.toNat - 48) :: ds, left)
    else ([], c :: rest)

/-- A part of two digits; between marks one is enough. -/
def part? (marked : Bool) (cs : List Char) : Option (Nat × List Char) :=
  let (ds, left) := leadingDigits 2 cs
  if ds.length = 2 || (marked && ds.length = 1) then some (Text.numeral ds, left) else none

/-- The marks between year, month and day. -/
def dateMarks : List Char := ['-', '.', '/', '\\', ' ']

/-- What begins with a digit. -/
def beginsWithDigit : List Char → Bool
  | c :: _ => c.isDigit
  | [] => false

/-- Reads a month and a day without marks. -/
def compactDate? (year : Int) (cs : List Char) : Option (Moment × List Char) := do
  let (month, rest) ← part? false cs
  let (day, rest) ← part? false rest
  return ({ year, month, day }, rest)

/-- Reads a month, or a month and a day with a mark between them. -/
def markedDate? (year : Int) (mark : Char) (cs : List Char) : Option (Moment × List Char) := do
  let (month, rest) ← part? true cs
  match rest with
  | [] => return ({ year, month, day := 1 }, [])
  | c :: rest =>
    if c != mark then none
    let (day, rest) ← part? true rest
    return ({ year, month, day }, rest)

/-- Whether the calendar has the month and the day; the year may be any. -/
def hasDay (m : Moment) : Bool :=
  1 ≤ m.month && m.month ≤ 12 && 1 ≤ m.day && m.day ≤ daysIn m.year m.month

/-- Reads a date. A minus in front belongs to the year. -/
def standardDate? (cs : List Char) : Option (Moment × List Char) := do
  let (negative, cs) := match cs with
    | '-' :: rest => (true, rest)
    | _ => (false, cs)
  let (digits, rest) := leadingDigits 4 cs
  if digits.length < 4 then none
  let size : Int := Text.numeral digits
  let year := if negative then -size else size
  let (m, rest) ← match rest with
    | [] => some ({ year, month := 1, day := 1 }, [])
    | c :: after =>
      if c.isDigit then compactDate? year rest
      else if dateMarks.contains c then markedDate? year c after
      else none
  if m.hasDay then some (m, rest) else none

/-- Blanks of a time of day. -/
def isTimeBlank (c : Char) : Bool := c == ' ' || (9 ≤ c.toNat && c.toNat ≤ 13)

/-- One or two digits below a limit. -/
def below? (limit : Nat) (cs : List Char) : Option (Nat × List Char) := do
  let (n, rest) ← part? true cs
  if n < limit then some (n, rest) else none

/-- Reads the distance from universal time: hours, and minutes with a mark or
without. -/
def distance? (cs : List Char) : Option (Nat × List Char) := do
  let (hours, rest) ← below? 24 cs
  if rest.isEmpty then return (60 * hours, [])
  let rest := match rest with
    | ':' :: after => after
    | _ => rest
  let (minutes, rest) ← below? 60 rest
  return (60 * hours + minutes, rest)

/-- Reads what follows a time of day: nothing, a `Z` for universal time, or the
distance from it. -/
def zone? (m : Moment) (cs : List Char) : Option Moment := do
  let (ahead, rest) ← match cs.dropWhile isTimeBlank with
    | 'Z' :: rest => some (some 0, rest)
    | '+' :: rest => do
      let (n, rest) ← distance? rest
      pure (some (n : Int), rest)
    | '-' :: rest => do
      let (n, rest) ← distance? rest
      pure (some (-(n : Int)), rest)
    | rest => some (none, rest)
  if (rest.dropWhile isTimeBlank).isEmpty then some { m with ahead } else none

/-- The places of a second that are read at most. -/
def mostPlaces : Nat := 18

/-- Reads the seconds with their places, of which six are kept. -/
def seconds? (m : Moment) (marked : Bool) (cs : List Char) : Option Moment := do
  let (second, rest) ← part? marked cs
  if 59 < second then none
  match rest with
  | '.' :: rest =>
    let (places, rest) := leadingDigits mostPlaces rest
    zone? { m with second, micro := Text.numeral ((places ++ List.replicate 6 0).take 6) } rest
  | _ => zone? { m with second } rest

/-- Reads the minutes and what follows them. -/
def minutes? (m : Moment) (marked : Bool) (cs : List Char) : Option Moment := do
  let (minute, rest) ← part? marked cs
  if 59 < minute then none
  let m := { m with minute }
  match marked, rest with
  | true, ':' :: rest => seconds? m true rest
  | false, c :: _ => if c.isDigit then seconds? m false rest else zone? m rest
  | _, _ => zone? m rest

/-- Reads a time of day. -/
def time? (m : Moment) (cs : List Char) : Option Moment := do
  let (digits, rest) := leadingDigits 2 cs
  let hour := Text.numeral digits
  if digits.isEmpty || 23 < hour then none
  let m := { m with hour }
  match rest with
  | ':' :: rest => minutes? m true rest
  | _ =>
    if digits.length = 1 then none
    else if beginsWithDigit rest then minutes? m false rest
    else zone? m rest

/-- Reads a moment in standard notation. The year may be one that the calendar
does not have. -/
def standard? (cs : List Char) : Option Moment := do
  let (m, rest) ← standardDate? (cs.dropWhile isTimeBlank)
  match rest with
  | [] => some m
  | [_] => none
  | c :: rest => if c == 'T' || c == ' ' then time? m rest else none

end MapSheets.Moment
