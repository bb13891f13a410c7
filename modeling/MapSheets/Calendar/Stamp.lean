import MapSheets.Calendar.Standard
import MapSheets.Calendar.Written
import MapSheets.Failure
import MapSheets.Number.Reading
import MapSheets.Text.Parts

/-
Stamps: when something was done, or that this is not known. A text is read in
the standard notation first, then as month, day and year in numbers, then as
a quarter of a year, and last as a date that is written freely.
-/

namespace MapSheets

/-- When something was done. -/
inductive Stamp where
  | unknown
  | moment (m : Moment)
  deriving DecidableEq, Repr

namespace Stamp

/-- The date in print. -/
def dateText : Stamp → String
  | unknown => "NaT"
  | moment m => m.dateText

/-- Date and time in print. -/
def text : Stamp → String
  | unknown => "NaT"
  | moment m => m.text

/-- The texts that say that nothing is known. -/
def unknownTexts : List String := ["", "NaT", "nat", "NAT", "nan", "NaN", "NAN"]

/-- Whether a text is a number below a thousand, which is no date. A zero in
front lets it pass. -/
def isSmallNumber (text : String) : Bool :=
  let cs := text.toList
  cs.all (fun c => c.isDigit || ['.', 'e', 'E', '+', '-', ' ', '\t'].contains c)
    && cs.head? != some '0' && (Reading.float? text).any (· < 1000)

/-- Letters that are no date, though they have a meaning in one. -/
def isLoneLetter (text : String) : Bool := ["a", "m", "p", "t"].contains text.toLower

/-- Whether a text begins with an hour and a colon. -/
def beginsWithHour (cs : List Char) : Bool :=
  4 ≤ cs.length && match cs with
    | h :: ':' :: _ => h.isDigit
    | h :: i :: ':' :: _ => h.isDigit && i.isDigit
    | _ => false

/-- The marks between the numbers of a date. -/
def isMark (c : Char) : Bool := [' ', '/', '-', '.'].contains c

/-- The moment of a day, if the calendar has it. -/
def day (year month day : Nat) : Except DateFault Moment :=
  let m : Moment := { year, month, day }
  match m.outOfRange? with
  | some part => .error (.missing part year)
  | none => .ok m

/-- Reads a month, a day and a year in numbers; where the first cannot be the
month, it is the day. -/
def inNumbers (cs : List Char) : Except DateFault (Option Moment) :=
  let parts := Text.cutAt isMark cs
  let isYear (y : List Char) : Bool := y.length = 4 && y.head? != some '0'
  if !parts.all (fun p => p.all Char.isDigit && !p.isEmpty) then .ok none
  else
    let numbers := parts.map fun p => Text.numeral (p.map fun c => c.toNat - 48)
    match parts, numbers with
    | [a, b, y], [month, day, year] =>
      if 2 < a.length || 2 < b.length || !isYear y then .ok none
      else if month < 1 || 31 < month || day < 1 || 31 < day || (12 < month && 12 < day) then
        .error (.noMonth month day)
      else some <$> if 12 < month then Stamp.day year day month else Stamp.day year month day
    | [a, y], [month, year] =>
      if a.length ≠ 2 || !isYear y || cs.contains '.' then .ok none
      else if month < 1 || 31 < month then .error (.noMonth month 1)
      else some <$> Stamp.day year month 1
    | _, _ => .ok none

/-- The numbers of a quarter and its year, as in `2Q2021`, `2021-Q2` or `21Q2`.
The letter has a dash on the side of the year, or none. -/
def quarterParts? (s : String) : Option (Int × Int) := do
  let cs := s.toList
  let letter ← (cs.take 6).findIdx? (· == 'Q')
  let number (part : List Char) : Option Int := Reading.int? (String.ofList part)
  let length := cs.length
  let isDash (place : Nat) : Bool := cs[place]? == some '-'
  let isShort (dash : Nat) : Bool := length = 4 || (length = 5 && isDash dash)
  let isLong (dash : Nat) : Bool := length = 6 || (length = 7 && isDash dash)
  match letter with
  | 0 => none
  | 1 =>
    let quarter ← number (cs.take 1)
    if isShort 2 then return (quarter, 2000 + (← number (cs.drop (length - 2))))
    else if isLong 2 then return (quarter, ← number (cs.drop (length - 4)))
    else none
  | place + 1 =>
    let quarter ← number (cs.drop (length - 1))
    if place < 3 then
      if isShort place then return (quarter, 2000 + (← number (cs.take 2))) else none
    else if isLong place then return (quarter, ← number (cs.take 4)) else none

/-- Reads a year alone, or a quarter of a year, which counts from its first day. -/
def quarter (text : String) : Except DateFault (Option Moment) :=
  let isYear (y : Int) : Bool := 1 ≤ y && y ≤ Moment.lastYear
  match (if text.length = 4 then (Reading.int? text).filter isYear else none) with
  | some year => .ok (some { year, month := 1, day := 1 })
  | none =>
    if text.length < 4 || 7 < text.length then .ok none
    else match quarterParts? text.toUpper with
      | none => .ok none
      | some (q, year) =>
        if q < 1 || 4 < q then .error (.noQuarter text.toUpper)
        else if isYear year then .ok (some { year, month := (q.toNat - 1) * 3 + 1, day := 1 })
        else .ok none

/-- Reads a moment in any notation but the standard one. -/
def readOther (text : String) : Except DateFault Moment := do
  if isSmallNumber text || isLoneLetter text then throw (.number text)
  if beginsWithHour text.toList then throw (.timeOnly text)
  match ← inNumbers text.toList with
  | some m => return m
  | none => match ← quarter text with
    | some m => return m
    | none => Written.read text

/-- Reads a stamp. -/
def read (text : String) : Except DateFault Stamp := do
  if unknownTexts.contains text then return .unknown
  match Moment.standard? text.toList with
  | some m =>
    if m.year < 1 then throw (.missing .year m.year)
    return .moment m
  | none => return .moment (← readOther text)

/-- Reads a stamp, or says why the text gives none. -/
def parse (text : String) : Outcome Stamp := (read text).mapError .date

end Stamp

end MapSheets
