import TableCast.Text.Pieces

/-!
# Dates and points in time

A day of the calendar, and a point in time with its distance from universal time, each of
which must lie within the bounds of the calendar.

- `Day`, `Moment`: a day, and a point in time.
- `Day.checked`, `Moment.checked`: a day or a point in time within bounds.
- `Day.text`, `Moment.text`: how they are written.
-/

namespace TableCast

open Text

/-- A day of the calendar. -/
structure Day where
  year : Nat
  month : Nat
  day : Nat
deriving Repr, DecidableEq, Inhabited

/-- A point in time. -/
structure Moment where
  date : Day
  hour : Nat
  minute : Nat
  second : Nat
  micro : Nat
  /-- How many minutes the clock is ahead of universal time, when it is known. -/
  ahead : Option Int
deriving Repr, DecidableEq, Inhabited

/-- Why there is no such day or point in time. -/
inductive CalendarError where
  | year (n : Nat)
  | month
  | day
  | hour
  | minute
  | second
  /-- The clock is a day or more ahead or behind. -/
  | ahead (minutes : Int)
deriving Repr, DecidableEq, Inhabited

/-- The seconds of a day. -/
def daySeconds : Int := 86400

/-- A length of time in whole minutes, as days and seconds. -/
def durationText (minutes : Int) : String :=
  let days := Int.fdiv (60 * minutes) daySeconds
  let seconds := Int.fmod (60 * minutes) daySeconds
  let parts := (if days == 0 then [] else ["days=" ++ toString days]) ++
    (if seconds == 0 then [] else ["seconds=" ++ toString seconds])
  "datetime.timedelta(" ++ (if parts.isEmpty then "0" else joinWith ", " parts) ++ ")"

/-- The message about a day or a point in time that there is not. -/
def CalendarError.message : CalendarError → String
  | .year n => "year " ++ toString n ++ " is out of range"
  | .month => "month must be in 1..12"
  | .day => "day is out of range for month"
  | .hour => "hour must be in 0..23"
  | .minute => "minute must be in 0..59"
  | .second => "second must be in 0..59"
  | .ahead minutes =>
    "offset must be a timedelta strictly between -timedelta(hours=24) and " ++
      "timedelta(hours=24), not " ++ durationText minutes ++ "."

/-- Whether a year has a leap day. -/
def isLeapYear (year : Nat) : Bool :=
  year % 4 == 0 && (year % 100 != 0 || year % 400 == 0)

/-- The number of days of a month. -/
def daysOfMonth (year month : Nat) : Nat :=
  if month == 2 then (if isLeapYear year then 29 else 28)
  else if [4, 6, 9, 11].contains month then 30
  else 31

/-- The day, when it is one of the calendar. -/
def Day.checked (d : Day) : Except CalendarError Day :=
  if d.year < 1 || 9999 < d.year then .error (.year d.year)
  else if d.month < 1 || 12 < d.month then .error .month
  else if d.day < 1 || daysOfMonth d.year d.month < d.day then .error .day
  else .ok d

/-- The point in time, when it is one of the calendar. -/
def Moment.checked (m : Moment) : Except CalendarError Moment := do
  if let some minutes := m.ahead then
    if (1440 : Int) ≤ minutes.natAbs then throw (.ahead minutes)
  let _ ← m.date.checked
  if 23 < m.hour then throw .hour
  else if 59 < m.minute then throw .minute
  else if 59 < m.second then throw .second
  else return m

/-- A number with zeros in front of it. -/
def withZeros (width n : Nat) : String :=
  let digits := toString n
  String.ofList (List.replicate (width - digits.length) '0') ++ digits

/-- A day as it is written: year, month and day. -/
def Day.text (d : Day) : String :=
  withZeros 4 d.year ++ "-" ++ withZeros 2 d.month ++ "-" ++ withZeros 2 d.day

/-- How far a clock is ahead, as it is written. -/
def aheadText (minutes : Int) : String :=
  let n := minutes.natAbs
  (if minutes < 0 then "-" else "+") ++ withZeros 2 (n / 60) ++ ":" ++ withZeros 2 (n % 60)

/-- A point in time as it is written. -/
def Moment.text (m : Moment) : String :=
  m.date.text ++ " " ++ withZeros 2 m.hour ++ ":" ++ withZeros 2 m.minute ++ ":" ++
    withZeros 2 m.second ++ (if m.micro == 0 then "" else "." ++ withZeros 6 m.micro) ++
    (m.ahead.map aheadText).getD ""

/-- The numbers of a day, in order. -/
def Day.numbers (d : Day) : List Nat := [d.year, d.month, d.day]

/-- A day as it is written inside a collection. -/
def Day.shown (d : Day) : String :=
  "datetime.date(" ++ joinWith ", " (d.numbers.map toString) ++ ")"

/-- How far a clock is ahead, as it is written inside a collection. -/
def aheadShown (minutes : Int) : String :=
  "tzinfo=datetime.timezone" ++
    (if minutes == 0 then ".utc" else "(" ++ durationText minutes ++ ")")

/-- A point in time as it is written inside a collection: seconds without value are left
out. -/
def Moment.shown (m : Moment) : String :=
  let seconds := if m.micro != 0 then [m.second, m.micro]
    else if m.second != 0 then [m.second] else []
  let parts := (m.date.numbers ++ [m.hour, m.minute] ++ seconds).map toString ++
    (m.ahead.map aheadShown).toList
  "datetime.datetime(" ++ joinWith ", " parts ++ ")"

end TableCast
