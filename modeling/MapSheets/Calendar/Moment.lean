import MapSheets.Number.Decimal

/-
Moments of the calendar: a date and a time of day, by a clock that may be a
known time ahead of the universal one. A date alone is its midnight.
-/

namespace MapSheets

/-- A date and a time of day, down to the millionth of a second. -/
structure Moment where
  year : Int
  month : Nat
  day : Nat
  hour : Nat := 0
  minute : Nat := 0
  second : Nat := 0
  micro : Nat := 0
  /-- The minutes by which the clock is ahead of universal time. -/
  ahead : Option Int := none
  deriving DecidableEq, Repr

namespace Moment

/-- Every fourth year has a day more, of full centuries every fourth one. -/
def isLeap (year : Int) : Bool :=
  year % 4 == 0 && (year % 100 != 0 || year % 400 == 0)

/-- The days of a month. -/
def daysIn (year : Int) (month : Nat) : Nat :=
  if month = 2 then (if isLeap year then 29 else 28)
  else if month = 4 ∨ month = 6 ∨ month = 9 ∨ month = 11 then 30 else 31

/-- The parts of a moment that can be out of range. -/
inductive Part where
  | year
  | month
  | day
  | hour
  | minute
  | second
  deriving DecidableEq, Repr

/-- The greatest year of the calendar. -/
def lastYear : Int := 9999

/-- The first part that the calendar or the clock does not have. -/
def outOfRange? (m : Moment) : Option Part :=
  if m.year < 1 ∨ lastYear < m.year then some .year
  else if m.month < 1 ∨ 12 < m.month then some .month
  else if m.day < 1 ∨ daysIn m.year m.month < m.day then some .day
  else if 23 < m.hour then some .hour
  else if 59 < m.minute then some .minute
  else if 59 < m.second then some .second
  else none

/-- The days before a year, counted from the first of the calendar. -/
def daysBefore (year : Int) : Int :=
  let y := year - 1
  365 * y + y / 4 - y / 100 + y / 400

/-- The days of a date, the first of the calendar being day zero. -/
def dayNumber (m : Moment) : Int :=
  let months := (List.range (m.month - 1)).foldl (fun days k => days + daysIn m.year (k + 1)) 0
  daysBefore m.year + (months + m.day : Nat) - 1

/-- The day of the week, from zero for Monday. The calendar begins on a Monday. -/
def weekday (m : Moment) : Nat := (m.dayNumber % 7).toNat

/-- The same time on the day before. -/
def previousDay (m : Moment) : Moment :=
  if 1 < m.day then { m with day := m.day - 1 }
  else if 1 < m.month then { m with month := m.month - 1, day := daysIn m.year (m.month - 1) }
  else { m with year := m.year - 1, month := 12, day := 31 }

/-- The same time on the next day. -/
def nextDay (m : Moment) : Moment :=
  if m.day < daysIn m.year m.month then { m with day := m.day + 1 }
  else if m.month < 12 then { m with month := m.month + 1, day := 1 }
  else { m with year := m.year + 1, month := 1, day := 1 }

/-- The first moment at the same time, from this day on, on a day of the week. -/
def onWeekday (m : Moment) (weekday : Nat) : Moment :=
  Nat.repeat nextDay ((weekday + 7 - m.weekday) % 7) m

/-- The moment by universal time; a clock of unknown distance counts as one of
universal time. -/
def universal (m : Moment) : Moment :=
  let minutes : Int := (60 * m.hour + m.minute : Nat) - m.ahead.getD 0
  let days := minutes / (24 * 60)
  let rest := (minutes % (24 * 60)).toNat
  let m := if days < 0 then m.previousDay else if 0 < days then m.nextDay else m
  { m with hour := rest / 60, minute := rest % 60, ahead := some 0 }

/-- Whether it is the midnight of its date, by a clock of unknown distance. -/
def isDateAlone (m : Moment) : Bool :=
  m.hour = 0 && m.minute = 0 && m.second = 0 && m.micro = 0 && m.ahead.isNone

/-- The date in print. -/
def dateText (m : Moment) : String :=
  Decimal.padded 4 m.year.toNat ++ "-" ++ Decimal.padded 2 m.month ++ "-" ++ Decimal.padded 2 m.day

/-- The minutes ahead of universal time in print. -/
def aheadText (minutes : Int) : String :=
  (if minutes < 0 then "-" else "+") ++ Decimal.padded 2 (minutes.natAbs / 60) ++ ":"
    ++ Decimal.padded 2 (minutes.natAbs % 60)

/-- Date and time in print, with something between them; millionths show only
where there are some. -/
def textWith (between : String) (m : Moment) : String :=
  m.dateText ++ between ++ Decimal.padded 2 m.hour ++ ":" ++ Decimal.padded 2 m.minute ++ ":"
    ++ Decimal.padded 2 m.second
    ++ (if m.micro = 0 then "" else "." ++ Decimal.padded 6 m.micro)
    ++ (m.ahead.map aheadText).getD ""

/-- A moment in print among those of a column: the date alone where all of them
are dates alone, otherwise the time as well, with thousandths where one of them
has some. The year has no more digits than it needs. A moment by a clock of known
distance is printed in full. -/
def textAmong (column : List Moment) (m : Moment) : String :=
  if m.ahead.isSome then m.textWith " "
  else
    let date := toString m.year ++ "-" ++ Decimal.padded 2 m.month ++ "-" ++ Decimal.padded 2 m.day
    if column.all isDateAlone then date
    else date ++ " " ++ Decimal.padded 2 m.hour ++ ":" ++ Decimal.padded 2 m.minute ++ ":"
      ++ Decimal.padded 2 m.second
      ++ (if column.all (·.micro = 0) then "" else "." ++ Decimal.padded 3 (m.micro / 1000))

/-- Date and time in print, in the standard notation. -/
def text (m : Moment) : String := m.textWith "T"

end Moment

end MapSheets
