import MapSheets.Calendar.Fault
import MapSheets.Calendar.Lexeme
import MapSheets.Number.Power

/-
Dates written freely, as in `2 March 2021 10:20 pm`. Numbers and names are
gathered in the order in which they stand. What is left open is settled at
the end: a number over 31 is a year, and among small numbers the month stands
before the day unless it cannot be one. The text is read to its end or not at
all.
-/

namespace MapSheets.Written

-- ==================================================================== words

/-- The place of the first group of names with a word; letter case does not matter. -/
def groupOf? (groups : List (List String)) (word : String) : Option Nat :=
  groups.findIdx? (·.contains word.toLower)

/-- The number of a month. -/
def month? (word : String) : Option Nat :=
  (groupOf? [["jan", "january"], ["feb", "february"], ["mar", "march"], ["apr", "april"], ["may"],
    ["jun", "june"], ["jul", "july"], ["aug", "august"], ["sep", "sept", "september"],
    ["oct", "october"], ["nov", "november"], ["dec", "december"]] word).map (· + 1)

/-- A day of the week, from zero for Monday. -/
def weekday? : String → Option Nat :=
  groupOf? [["mon", "monday"], ["tue", "tuesday"], ["wed", "wednesday"], ["thu", "thursday"],
    ["fri", "friday"], ["sat", "saturday"], ["sun", "sunday"]]

/-- A unit of time: hours, minutes or seconds. -/
def unit? : String → Option Nat :=
  groupOf? [["h", "hour", "hours"], ["m", "minute", "minutes"], ["s", "second", "seconds"]]

/-- A half of the day: before or after noon. -/
def half? : String → Option Nat := groupOf? [["am", "a"], ["pm", "p"]]

/-- Words and marks that say nothing. -/
def isFiller (word : String) : Bool :=
  [" ", ".", ",", ";", "-", "/", "'", "at", "on", "and", "ad", "m", "t", "of", "st", "nd", "rd",
    "th"].contains word.toLower

/-- The names of universal time. -/
def isUniversal (word : String) : Bool := ["utc", "gmt", "z"].contains word.toLower

-- ================================================================== numbers

/-- A number in print: its digits before the point and behind it. -/
structure Numeral where
  whole : List Nat
  places : List Nat

/-- The numeral of a lexeme. -/
def numeral? (s : String) : Option Numeral := do
  let digits (cs : List Char) : Option (List Nat) := cs.mapM Text.digitValue?
  let (whole, rest) := s.toList.span (· != '.')
  let whole ← digits whole
  let places ← digits (rest.drop 1)
  if whole.isEmpty || (!rest.isEmpty && places.isEmpty) then none else some ⟨whole, places⟩

/-- The number before the point. -/
def Numeral.value (n : Numeral) : Nat := Text.numeral n.whole

/-- Whether there is more than zero behind the point. -/
def Numeral.isFractional (n : Numeral) : Bool := n.places.any (· != 0)

/-- The sixtieths behind the point. -/
def Numeral.sixtieths (n : Numeral) : Nat := 60 * Text.numeral n.places / tenTo n.places.length

/-- Whether it is from one number to another. -/
def Numeral.isBetween (n : Numeral) (low high : Nat) : Bool :=
  low ≤ n.value && (n.value < high || (n.value = high && !n.isFractional))

/-- The number of a row of digits. -/
def digits? (cs : List Char) : Option Nat :=
  if cs.isEmpty then none else Text.numeral <$> cs.mapM Text.digitValue?

/-- Seconds and their places, of which six are kept. -/
def seconds? (cs : List Char) : Option (Nat × Nat) := do
  match cs.span (· != '.') with
  | (whole, []) => return (← digits? whole, 0)
  | (whole, _ :: places) =>
    let micro ← digits? ((places ++ List.replicate 6 '0').take 6)
    if places.all Lexeme.isDigit then return (← digits? whole, micro) else none

-- ==================================================================== draft

/-- What a text has told so far. -/
structure Draft where
  /-- The numbers of the date, in order. -/
  numbers : List Nat := []
  /-- Which of them is known to be the year. -/
  yearAt : Option Nat := none
  /-- Which of them is known to be the month. -/
  monthAt : Option Nat := none
  /-- Whether the year has its century. -/
  hasCentury : Bool := false
  weekday : Option Nat := none
  hour : Option Nat := none
  minute : Option Nat := none
  second : Option Nat := none
  micro : Option Nat := none
  zone : Option String := none
  /-- The minutes ahead of universal time. -/
  ahead : Option Int := none

namespace Draft

/-- Adds a number of the date. -/
def addPlain (d : Draft) (n : Nat) : Draft := { d with numbers := d.numbers ++ [n] }

/-- Adds a month; there is one at most. -/
def addMonth (d : Draft) (n : Nat) : Option Draft :=
  if d.monthAt.isSome then none
  else some { d.addPlain n with monthAt := some d.numbers.length }

/-- Adds a year with its century; there is one at most. -/
def addYear (d : Draft) (n : Nat) : Option Draft :=
  if d.yearAt.isSome then none
  else some { d.addPlain n with yearAt := some d.numbers.length, hasCentury := true }

/-- Adds a number as it is written: with three digits or more it is a year. -/
def addDigits (d : Draft) (cs : List Char) : Option Draft := do
  let n ← digits? cs
  if 2 < cs.length then d.addYear n else some (d.addPlain n)

/-- Adds a number by its value: over a hundred it is a year. -/
def addNumber (d : Draft) (n : Numeral) : Option Draft :=
  if n.isBetween 0 100 then some (d.addPlain n.value) else d.addYear n.value

/-- Adds a number or the name of a month. -/
def addPart (d : Draft) (word : String) : Option Draft :=
  match month? word with
  | some m => d.addMonth m
  | none => d.addDigits word.toList

/-- Sets the hour, which goes by the half of the day if that is known. -/
def setHour (d : Draft) (hour : Nat) (half : Nat) : Draft :=
  { d with hour := some (
      if hour < 12 && half = 1 then hour + 12 else if hour = 12 && half = 0 then 0 else hour) }

/-- Sets the minute, and the second where a part of a minute is told. -/
def setMinute (d : Draft) (n : Numeral) : Draft :=
  { d with
    minute := some n.value
    second := if n.isFractional then some n.sixtieths else none }

/-- Sets the second and its millionths. -/
def setSecond (d : Draft) (cs : List Char) : Option Draft := do
  let (second, micro) ← seconds? cs
  return { d with second := some second, micro := some micro }

/-- Sets a number of a unit of time. -/
def setUnit (d : Draft) (unit : Nat) (word : String) (n : Numeral) : Option Draft :=
  match unit with
  | 0 =>
    let d := { d with hour := some n.value }
    some (if n.isFractional then { d with minute := some n.sixtieths } else d)
  | 1 => some (d.setMinute n)
  | 2 => d.setSecond word.toList
  | _ => some d

/-- Whether a number can still be the day. -/
def takesDay (d : Draft) (n : Numeral) : Bool :=
  let named (at? : Option Nat) : Option Nat := at?.bind (d.numbers[·]?)
  match named d.monthAt, named d.yearAt with
  | none, _ => n.isBetween 1 31
  | some m, none => n.isBetween 1 (Moment.daysIn 2000 m)
  | some m, some y => n.isBetween 1 (Moment.daysIn y m)

/-- Whether a word can name the zone: a time is known and no zone yet, and it is
short and in capitals. -/
def takesZone (d : Draft) (word : String) : Bool :=
  d.hour.isSome && d.zone.isNone && word.length ≤ 5
    && (word.toList.all Char.isUpper || word == "z")

end Draft

-- ===================================================================== steps

/-- The outcome of a step: how many further lexemes it took, and the draft. -/
abbrev Step := Option (Nat × Draft)

/-- The unit that a number is told in: named behind it, or, as the next smaller
one, in front of it. -/
def unitOf? (before rest : List String) : Option (Nat × Nat) :=
  let behind : Option (Nat × Nat) :=
    match rest with
    | " " :: u :: _ => (unit? u).map ((2, ·))
    | u :: _ => (unit? u).map ((1, ·))
    | [] => none
  let inFront : Option (Nat × Nat) :=
    match before with
    | u :: more =>
      match unit? u with
      | some n => some (0, n + 1)
      | none =>
        match u, more with
        | " ", v :: _ => if rest.isEmpty then (unit? v).map fun n => (0, n + 1) else none
        | _, _ => none
    | [] => none
  behind <|> inFront

/-- Reads a number that is told with a mark behind it, as in `2-3-2021`. -/
def markedNumber (d : Draft) (word mark : String) (rest : List String) : Step := do
  let d ← d.addDigits word.toList
  match rest with
  | [] => return (1, d)
  | next :: more =>
    if isFiller next then return (1, d)
    let d ← d.addPart next
    match more with
    | again :: more =>
      if again = mark then
        match more with
        | [] => none
        | last :: _ => return (4, ← d.addPart last)
      else return (2, d)
    | [] => return (2, d)

/-- Reads a time of day with colons. -/
def clock (d : Draft) (n : Numeral) (minute : String) (rest : List String) : Step := do
  let d := { d with hour := some n.value }
  let d := d.setMinute (← numeral? minute)
  match rest with
  | ":" :: second :: _ => return (4, ← d.setSecond second.toList)
  | _ => return (2, d)

/-- Reads a number. How it is taken goes by its length, by what stands around
it, and by what is known already. -/
def number (d : Draft) (before : List String) (word : String) (n : Numeral) (rest : List String) :
    Step := do
  let cs := word.toList
  let length := cs.length
  let next := rest.head?
  let endsHere := match next with
    | some w => w != ":" && (unit? w).isNone
    | none => true
  if d.numbers.length = 3 && (length = 2 || length = 4) && d.hour.isNone && endsHere then
    let d := { d with hour := ← digits? (cs.take 2) }
    if length = 4 then return (0, { d with minute := ← digits? (cs.drop 2) }) else return (0, d)
  else if length = 6 || (6 < length && cs[6]? == some '.') then
    if d.numbers.isEmpty && !cs.contains '.' then
      let d ← d.addDigits (cs.take 2)
      let d ← d.addDigits ((cs.drop 2).take 2)
      return (0, ← d.addDigits (cs.drop 4))
    else
      let d := { d with hour := ← digits? (cs.take 2), minute := ← digits? ((cs.drop 2).take 2) }
      return (0, ← d.setSecond (cs.drop 4))
  else if length = 8 || length = 12 || length = 14 then
    let d ← d.addYear (← digits? (cs.take 4))
    let d ← d.addDigits ((cs.drop 4).take 2)
    let d ← d.addDigits ((cs.drop 6).take 2)
    if length = 8 then return (0, d)
    let d := { d with
      hour := ← digits? ((cs.drop 8).take 2), minute := ← digits? ((cs.drop 10).take 2) }
    if length = 12 then return (0, d)
    return (0, { d with second := ← digits? (cs.drop 12) })
  else if let some (count, unit) := unitOf? before rest then
    return (count, ← d.setUnit unit word n)
  else match rest with
    | ":" :: minute :: more => clock d n minute more
    | _ =>
      match next with
      | none => return (1, ← d.addNumber n)
      | some mark =>
        if ["-", "/", "."].contains mark then markedNumber d word mark (rest.drop 1)
        else if isFiller mark then
          match (rest[1]?).bind half? with
          | some half => return (2, d.setHour n.value half)
          | none => return (1, ← d.addNumber n)
        else match half? mark with
          | some half =>
            if n.value < 24 then return (1, d.setHour n.value half)
            else if d.takesDay n then return (0, ← d.addNumber n)
            else none
          | none => if d.takesDay n then return (0, ← d.addNumber n) else none

/-- The centuries that years of two digits are taken from begin fifty years
before this one. -/
def presentYear : Nat := 2026

/-- A year with its century. -/
def fullYear (year : Nat) : Nat :=
  if 100 ≤ year then year
  else
    let near := presentYear / 100 * 100 + year
    if presentYear + 50 ≤ near then near - 100
    else if near + 50 < presentYear then near + 100 else near

/-- Reads the name of a month and what belongs to it. -/
def namedMonth (d : Draft) (month : Nat) (rest : List String) : Step := do
  let d ← d.addMonth month
  match rest with
  | mark :: more =>
    if mark = "-" || mark = "/" then
      match more with
      | [] => none
      | first :: more =>
        let d ← d.addDigits first.toList
        match more with
        | again :: more =>
          if again = mark then
            match more with
            | [] => none
            | last :: _ => return (4, ← d.addDigits last.toList)
          else return (2, d)
        | [] => return (2, d)
    else
      match rest with
      | " " :: word :: " " :: year :: _ =>
        if word.toLower = "of" then
          match digits? year.toList with
          | some y => return (4, ← d.addYear (fullYear y))
          | none => return (4, d)
        else return (0, d)
      | _ => return (0, d)
  | [] => return (0, d)

/-- Reads the distance from universal time, and a zone in brackets behind it. -/
def zoneDistance (d : Draft) (sign : String) (rest : List String) : Step := do
  let size ← rest.head?
  let cs := size.toList
  let (count, hours, minutes) ← (do
    if cs.length = 4 then pure (1, ← digits? (cs.take 2), ← digits? (cs.drop 2))
    else match rest with
      | _ :: ":" :: more => pure (3, ← digits? cs, ← digits? (← more.head?).toList)
      | _ => if cs.length ≤ 2 then pure (1, ← digits? cs, 0) else none : Option (Nat × Nat × Nat))
  let minutes : Int := 60 * hours + minutes
  let ahead := some (if sign = "+" then minutes else -minutes)
  match rest.drop count with
  | gap :: "(" :: name :: ")" :: _ =>
    if isFiller gap && 3 ≤ name.length && d.takesZone name then
      return (count + 4, { d with ahead, zone := some name })
    else return (count, { d with ahead })
  | _ => return (count, { d with ahead })

/-- Reads the name of a zone. A distance behind it is told the other way round. -/
def zoneName (d : Draft) (word : String) (rest : List String) : Nat × List String × Draft :=
  let ahead : Option Int := if ["UTC", "GMT", "Z", "z"].contains word then some 0 else none
  let turned (sign : String) (more : List String) : Nat × List String × Draft :=
    (0, sign :: more,
      { d with ahead := none, zone := if isUniversal word then none else some word })
  match rest with
  | "+" :: more => turned "-" more
  | "-" :: more => turned "+" more
  | _ => (0, rest, { d with zone := some word, ahead })

/-- Reads a lexeme; tells how many more it took, and what follows it now. -/
def step (d : Draft) (before : List String) (word : String) (rest : List String) :
    Option (Nat × List String × Draft) :=
  let plain (s : Step) : Option (Nat × List String × Draft) := s.map fun (k, d) => (k, rest, d)
  if let some n := numeral? word then plain (number d before word n rest)
  else if let some w := weekday? word then some (0, rest, { d with weekday := some w })
  else if let some m := month? word then plain (namedMonth d m rest)
  else if let some half := half? word then
    match d.hour with
    | some hour => if hour ≤ 12 then some (0, rest, d.setHour hour half) else none
    | none => none
  else if d.ahead.isNone && d.takesZone word then some (zoneName d word rest)
  else if d.hour.isSome && (word = "+" || word = "-") then plain (zoneDistance d word rest)
  else if isFiller word then some (0, rest, d)
  else none

/-- Reads lexemes one after the other, with those before at hand. -/
def gather : Nat → Draft → List String → List String → Option Draft
  | _, d, _, [] => some d
  | 0, _, _, _ :: _ => none
  | fuel + 1, d, before, word :: rest => do
    let (count, rest, d) ← step d before word rest
    gather fuel d ((rest.take count).reverse ++ word :: before) (rest.drop count)

-- ================================================================== settling

/-- Year, month and day, as far as they are told. -/
structure Told where
  year : Option Nat := none
  month : Option Nat := none
  day : Option Nat := none

/-- Settles which number is which. -/
def Draft.told? (d : Draft) : Option Told :=
  match d.numbers, d.yearAt, d.monthAt with
  | [], _, _ => some {}
  | [y], some _, _ => some { year := y }
  | [m], none, some _ => some { month := m }
  | [n], none, none => some (if 31 < n then { year := n } else { day := n })
  | [a, b], some y, some _ =>
    some (if y = 0 then { year := a, month := b } else { month := a, year := b })
  | [a, b], none, some m =>
    let (month, other) := if m = 0 then (a, b) else (b, a)
    some (if 31 < other then { month, year := other } else { month, day := other })
  | [a, b], _, none =>
    some (if 31 < a then { year := a, month := b }
      else if 31 < b then { month := a, year := b } else { month := a, day := b })
  | [a, b, c], some y, some m =>
    match y, m with
    | 0, 1 => some { year := a, month := b, day := c }
    | 0, _ => some { year := a, month := c, day := b }
    | 1, 0 => some { month := a, year := b, day := c }
    | 1, _ => some { day := a, year := b, month := c }
    | _, 0 => some { month := a, day := b, year := c }
    | _, _ => some { day := a, month := b, year := c }
  | [a, b, c], none, some m =>
    match m with
    | 0 => some (if 31 < b then { month := a, year := b, day := c }
        else { month := a, day := b, year := c })
    | 1 => some (if 31 < a then { year := a, month := b, day := c }
        else { day := a, month := b, year := c })
    | _ => some (if 31 < b then { day := a, year := b, month := c }
        else { year := a, day := b, month := c })
  | [a, b, c], y, none =>
    some (if 31 < a || y = some 0 then { year := a, month := b, day := c }
      else if 12 < a then { day := a, month := b, year := c }
      else { month := a, day := b, year := c })
  | _, _, _ => none

/-- The zone of a draft, in minutes ahead of universal time. -/
def Draft.zoneAhead (text : String) (d : Draft) : Except DateFault (Option Int) :=
  let isZ := d.zone == some "Z" || d.zone == some "z" || (d.ahead == some 0 && d.zone.isNone)
  let zone := if isZ then some "UTC" else d.zone
  let ahead := if isZ || zone.any isUniversal then some 0 else d.ahead
  if zone == some "UTC" || ahead == some 0 then .ok (some 0)
  else match ahead, zone with
    | some n, _ => if n.natAbs < 24 * 60 then .ok (some n) else .error .zoneTooFar
    | none, some name => .error (.zoneUnknown text name)
    | none, none => .ok none

/-- The largest year that is calculated with. -/
def greatestYear : Nat := 2147483647

/-- The moment of a draft. What is not told is as at the beginning of the
calendar; a day of the week alone moves to its next date. -/
def Draft.moment (text : String) (d : Draft) (t : Told) : Except DateFault Moment := do
  let year := t.year.map fun y => if d.hasCentury then y else fullYear y
  if [year, t.month, t.day, d.hour, d.minute, d.second, d.micro].all (·.isNone) then
    throw (.empty text)
  let y := year.getD 1
  if greatestYear < y then throw .yearTooLarge
  let m : Moment :=
    { year := y, month := t.month.getD 1, day := t.day.getD 1, hour := d.hour.getD 0
      minute := d.minute.getD 0, second := d.second.getD 0, micro := d.micro.getD 0 }
  if let some part := m.outOfRange? then throw (.impossible part m.year text)
  let m := match d.weekday, t.day with
    | some w, none => m.onWeekday w
    | _, _ => m
  return { m with ahead := ← d.zoneAhead text }

/-- Reads a date that is written freely. -/
def read (text : String) : Except DateFault Moment := do
  let lexemes := Lexeme.ofText text
  match (do
    let d ← gather lexemes.length {} [] lexemes
    return (d, ← d.told?)) with
  | some (d, t) => d.moment text t
  | none => throw (.unreadable text)

end MapSheets.Written
