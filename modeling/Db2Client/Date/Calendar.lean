/-!
# Calendar dates

A moment is a date of the Gregorian calendar, a time of day and, when it is known, the distance
from universal time. The calendar gives its place in the week, in the year and in the week
numbering of ISO 8601.
-/

namespace Db2Client.Date

/-- A date and time; a date alone is its midnight. -/
structure Moment where
  year : Nat
  month : Nat
  day : Nat
  hour : Nat := 0
  minute : Nat := 0
  second : Nat := 0
  microsecond : Nat := 0
  /-- The seconds that local time is ahead of universal time. -/
  offset : Option Int := none
deriving DecidableEq, Repr

/-! ## Days -/

def isLeap (year : Int) : Bool := year % 4 = 0 && (year % 100 ≠ 0 || year % 400 = 0)

def yearLength (year : Int) : Int := if isLeap year then 366 else 365

/-- The days of a common year before the first of each month. -/
def monthStarts : List Nat := [0, 31, 59, 90, 120, 151, 181, 212, 243, 273, 304, 334]

/-- The day of the year, the first of January being zero. -/
def Moment.yearDay (m : Moment) : Nat :=
  monthStarts.getD (m.month - 1) 0 + (if m.month > 2 && isLeap m.year then 1 else 0) + m.day - 1

/-- The number of the day, the first day of year one being one. -/
def Moment.dayNumber (m : Moment) : Nat :=
  let y := m.year - 1
  365 * y + y / 4 - y / 100 + y / 400 + m.yearDay + 1

/-- The day of the week, Sunday being zero. -/
def Moment.weekday (m : Moment) : Nat := m.dayNumber % 7

/-- The seconds since the first of January 1970, the clock being taken for universal time. -/
def Moment.epochSeconds (m : Moment) : Int :=
  ((m.dayNumber : Int) - 719163) * 86400 + m.hour * 3600 + m.minute * 60 + m.second

/-! ## Weeks -/

/-- The days from the start of the first week of a year to a day of it, which may lie outside; the
first week is the one that holds a Thursday. -/
def isoWeekDays (yearDay weekday : Int) : Int :=
  yearDay - (yearDay - weekday + 4 + 378) % 7 + 4 - 1

/-- The year and the week, counted from one, of the ISO week numbering. -/
def Moment.isoWeek (m : Moment) : Int × Int :=
  let year : Int := m.year
  let days := isoWeekDays m.yearDay m.weekday
  if days < 0 then
    (year - 1, isoWeekDays (m.yearDay + yearLength (year - 1)) m.weekday / 7 + 1)
  else
    let next := isoWeekDays (m.yearDay - yearLength year) m.weekday
    if 0 ≤ next then (year + 1, next / 7 + 1) else (year, days / 7 + 1)

/-- The week of the year when weeks start on Sunday. -/
def Moment.sundayWeek (m : Moment) : Nat := (m.yearDay + 7 - m.weekday) / 7

/-- The week of the year when weeks start on Monday. -/
def Moment.mondayWeek (m : Moment) : Nat := (m.yearDay + 7 - (m.weekday + 6) % 7) / 7

def Moment.hour12 (m : Moment) : Nat :=
  if m.hour > 12 then m.hour - 12 else if m.hour = 0 then 12 else m.hour

/-! ## Distance from universal time -/

def twoDigits (n : Nat) : String :=
  (if n < 10 then "0" else "") ++ String.ofList (Nat.toDigits 10 n)

/-- Hours, minutes and, unless they are zero, seconds, with `sep` between them. -/
def offsetText (sep : String) (seconds : Int) : String :=
  let n := seconds.natAbs
  (if seconds < 0 then "-" else "+") ++ twoDigits (n / 3600) ++ sep ++ twoDigits (n / 60 % 60) ++
    (if n % 60 = 0 then "" else sep ++ twoDigits (n % 60))

/-- The name of the zone with a fixed distance from universal time. -/
def zoneName (seconds : Int) : String :=
  if seconds = 0 then "UTC" else "UTC" ++ offsetText ":" seconds

end Db2Client.Date
