/-!
# Calendar dates

The Gregorian calendar, carried back to its year 1. Days are counted from the first day of that
year, which is day 0 and a Monday.
-/

namespace MagnetStream.Calendar

/-- A day of a month of a year. -/
structure Date where
  year : Nat
  month : Nat
  day : Nat
deriving DecidableEq, Repr

def isLeap (year : Nat) : Bool := year % 4 == 0 && (year % 100 != 0 || year % 400 == 0)

def monthLengths (year : Nat) : List Nat :=
  [31, if isLeap year then 29 else 28, 31, 30, 31, 30, 31, 31, 30, 31, 30, 31]

/-- How many days a month has; months outside the year have none. -/
def daysInMonth (year month : Nat) : Nat :=
  if month = 0 then 0 else (monthLengths year).getD (month - 1) 0

def daysBeforeYear (year : Nat) : Nat :=
  let past := year - 1
  past * 365 + past / 4 - past / 100 + past / 400

def daysBeforeMonth (year month : Nat) : Nat :=
  ((monthLengths year).take (month - 1)).foldr (· + ·) 0

def Date.toDay (date : Date) : Nat :=
  daysBeforeYear date.year + daysBeforeMonth date.year date.month + (date.day - 1)

/-- The year of a day, and the place of the day in its year. -/
def yearOfDay (day : Nat) : Nat × Nat :=
  let n400 := day / 146097
  let day := day % 146097
  let n100 := min (day / 36524) 3
  let day := day - n100 * 36524
  let n4 := day / 1461
  let day := day - n4 * 1461
  let n1 := min (day / 365) 3
  (n400 * 400 + n100 * 100 + n4 * 4 + n1 + 1, day - n1 * 365)

/-- The month that holds a day of a year, counted on from `month`, and the day of that month. -/
def monthOfDay (month day : Nat) : List Nat → Nat × Nat
  | [] => (month, day + 1)
  | length :: rest =>
    if day < length then (month, day + 1) else monthOfDay (month + 1) (day - length) rest

def Date.ofDay (day : Nat) : Date :=
  let (year, place) := yearOfDay day
  let (month, day) := monthOfDay 1 place (monthLengths year)
  ⟨year, month, day⟩

def lastYear : Nat := 9999

def dayCount : Nat := daysBeforeYear (lastYear + 1)

/-- Why a date or a time of day does not exist. -/
inductive RangeFault where
  | year (year : Int)
  | month
  | day
  | hour
  | minute
  | second
deriving DecidableEq, Repr

/-- The report on a date or time of day that does not exist. -/
def RangeFault.message : RangeFault → String
  | .year n => "year " ++ toString n ++ " is out of range"
  | .month => "month must be in 1..12"
  | .day => "day is out of range for month"
  | .hour => "hour must be in 0..23"
  | .minute => "minute must be in 0..59"
  | .second => "second must be in 0..59"

def Date.check (date : Date) : Except RangeFault Unit :=
  if date.year = 0 ∨ lastYear < date.year then .error (.year date.year)
  else if date.month = 0 ∨ 12 < date.month then .error .month
  else if date.day = 0 ∨ daysInMonth date.year date.month < date.day then .error .day
  else .ok ()

end MagnetStream.Calendar
