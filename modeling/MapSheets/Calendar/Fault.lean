import MapSheets.Calendar.Moment

/-
Why a text gives no moment. A text may be in no known notation, or may name
something that the calendar does not have.
-/

namespace MapSheets

/-- Why a text gives no moment. -/
inductive DateFault where
  /-- The text is in no known notation. -/
  | unreadable (text : String)
  /-- The text can be read, and names no part of a date. -/
  | empty (text : String)
  /-- A part is out of range. -/
  | impossible (part : Moment.Part) (year : Int) (text : String)
  /-- Neither number can be a month with the other as the day. -/
  | noMonth (month day : Nat)
  | noQuarter (text : String)
  /-- The text is a number too small to be a date. -/
  | number (text : String)
  /-- The text is a time of day without a date. -/
  | timeOnly (text : String)
  /-- A part of a date in numbers is not one of the calendar. -/
  | missing (part : Moment.Part) (year : Int)
  /-- The year is no number that is calculated with. -/
  | yearTooLarge
  | zoneUnknown (text zone : String)
  /-- The clock is a day or more away from universal time. -/
  | zoneTooFar
  deriving DecidableEq, Repr

/-- What is said of a part out of range. -/
def Moment.Part.message (year : Int) : Moment.Part → String
  | .year => "year " ++ toString year ++ " is out of range"
  | .month => "month must be in 1..12"
  | .day => "day is out of range for month"
  | .hour => "hour must be in 0..23"
  | .minute => "minute must be in 0..59"
  | .second => "second must be in 0..59"

namespace DateFault

/-- What is said of a text that gives no moment. -/
def message : DateFault → String
  | unreadable text => "Unknown datetime string format, unable to parse: " ++ text
  | empty text => "Unable to parse datetime string: " ++ text
  | impossible part year text => part.message year ++ ": " ++ text
  | noMonth month day =>
    "Invalid date specified (" ++ toString month ++ "/" ++ toString day ++ ")"
  | noQuarter text =>
    "Incorrect quarterly string is given, quarter must be between 1 and 4: " ++ text
  | number text => "Given date string \"" ++ text ++ "\" not likely a datetime"
  | timeOnly text => "Unknown string format: " ++ text
  | missing part year => part.message year
  | yearTooLarge => "signed integer is greater than maximum"
  | zoneUnknown text zone =>
    "Parsed string \"" ++ text ++ "\" included an un-recognized timezone \"" ++ zone ++ "\"."
  | zoneTooFar => "offset must be a timedelta strictly between -timedelta(hours=24) and "
      ++ "timedelta(hours=24)."

end DateFault

end MapSheets
