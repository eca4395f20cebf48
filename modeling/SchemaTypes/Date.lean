/-!
# Dates and times of day

A calendar date of the years 1 to 9999, and a moment: a date that may carry a time of day, with
microseconds, and an offset from universal time. The readers of configuration files build them
from numbers, and the faults below are the reasons why numbers name no date.
-/

namespace SchemaTypes

/-- A day of the calendar. -/
structure Date where
  year : Nat
  month : Nat
  day : Nat
deriving Repr, DecidableEq

/-- A time of day, with its offset from universal time in minutes if it has one. -/
structure TimeOfDay where
  hour : Nat
  minute : Nat
  second : Nat
  microsecond : Nat
  offset : Option Int
deriving Repr, DecidableEq

/-- A date, perhaps with a time of day. -/
structure Moment where
  date : Date
  time : Option TimeOfDay
deriving Repr, DecidableEq

namespace Date

/-- Why numbers name no date. -/
inductive Fault where
  | year (year : Nat)
  | month
  | day
  | hour
  | minute
  | second
deriving Repr, DecidableEq

/-- The text of a fault. -/
def Fault.message : Fault → String
  | .year n => "year " ++ n.repr ++ " is out of range"
  | .month => "month must be in 1..12"
  | .day => "day is out of range for month"
  | .hour => "hour must be in 0..23"
  | .minute => "minute must be in 0..59"
  | .second => "second must be in 0..59"

/-- Whether a year has a leap day. -/
def isLeap (year : Nat) : Bool :=
  year % 4 == 0 && (year % 100 != 0 || year % 400 == 0)

/-- The number of days of a month. -/
def daysInMonth (year month : Nat) : Nat :=
  if month = 2 then (if isLeap year then 29 else 28)
  else if month = 4 || month = 6 || month = 9 || month = 11 then 30
  else 31

/-- The date with the given numbers; the year is checked first, then the month, then the day. -/
def ofNumbers (year month day : Nat) : Except Fault Date :=
  if year = 0 || 9999 < year then .error (.year year)
  else if month = 0 || 12 < month then .error .month
  else if day = 0 || daysInMonth year month < day then .error .day
  else .ok ⟨year, month, day⟩

/-- A number with leading zeros up to a width. -/
def padded (width n : Nat) : String :=
  let digits := Nat.toDigits 10 n
  String.ofList (List.replicate (width - digits.length) '0' ++ digits)

/-- The number of days from the beginning of the year 1 to a date. -/
def dayNumber (date : Date) : Nat :=
  let past := date.year - 1
  365 * past + past / 4 - past / 100 + past / 400
    + (List.range (date.month - 1)).foldl
        (fun days month => days + daysInMonth date.year (month + 1)) 0
    + (date.day - 1)

/-- Year, month and day with hyphens between them. -/
def text (date : Date) : String :=
  padded 4 date.year ++ "-" ++ padded 2 date.month ++ "-" ++ padded 2 date.day

end Date

namespace TimeOfDay

/-- Checks hour, minute and second, in this order. -/
def check (time : TimeOfDay) : Except Date.Fault TimeOfDay :=
  if 23 < time.hour then .error .hour
  else if 59 < time.minute then .error .minute
  else if 59 < time.second then .error .second
  else .ok time

/-- Hour, minute and second, microseconds if there are any, and the offset if there is one. -/
def text (time : TimeOfDay) : String :=
  let fraction := if time.microsecond = 0 then "" else "." ++ Date.padded 6 time.microsecond
  let offset :=
    match time.offset with
    | none => ""
    | some minutes =>
      (if minutes < 0 then "-" else "+") ++ Date.padded 2 (minutes.natAbs / 60) ++ ":"
        ++ Date.padded 2 (minutes.natAbs % 60)
  Date.padded 2 time.hour ++ ":" ++ Date.padded 2 time.minute ++ ":"
    ++ Date.padded 2 time.second ++ fraction ++ offset

end TimeOfDay

/-- The microseconds from the beginning of the year 1 in universal time, for a moment that says
how far away from it its clock is. -/
def Moment.instant? (moment : Moment) : Option Int := do
  let time ← moment.time
  let offset ← time.offset
  let minutes := (24 * moment.date.dayNumber + time.hour) * 60 + time.minute
  return (((minutes : Int) - offset) * 60 + time.second) * 1000000 + time.microsecond

/-- Whether two moments are the same one: two with an offset if they are the same instant, and two
without if they read the same. -/
def Moment.isSame (a b : Moment) : Bool :=
  match a.instant?, b.instant? with
  | some m, some n => m == n
  | none, none => a == b
  | _, _ => false

/-- The date, and the time of day behind a separator. -/
def Moment.textWith (separator : String) (moment : Moment) : String :=
  moment.date.text ++ (moment.time.map fun time => separator ++ time.text).getD ""

end SchemaTypes
