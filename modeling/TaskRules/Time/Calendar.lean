/-!
The proleptic Gregorian calendar. A date has an ordinal, 0001-01-01 being day 1; a moment is a date
and a time of day to the microsecond, as a wall clock shows it.
-/

namespace TaskRules

structure Date where
  year : Nat
  month : Nat
  day : Nat
  deriving DecidableEq

namespace Date

def isLeap (year : Nat) : Bool :=
  year % 4 == 0 && (year % 100 != 0 || year % 400 == 0)

/-- The lengths of the months of a year. -/
def monthLengths (year : Nat) : List Nat :=
  [31, if isLeap year then 29 else 28, 31, 30, 31, 30, 31, 31, 30, 31, 30, 31]

/-- The length of a month; 0 for a number that is no month. -/
def monthLength (year month : Nat) : Nat :=
  if month = 0 then 0 else (monthLengths year).getD (month - 1) 0

/-- The days of all years before. -/
def daysBeforeYear (year : Nat) : Nat :=
  let y := year - 1
  y * 365 + y / 4 - y / 100 + y / 400

def ordinal (d : Date) : Nat :=
  daysBeforeYear d.year + ((monthLengths d.year).take (d.month - 1)).foldl Nat.add 0 + d.day

/-- Splits a day of the year, counted from 0, into month and day. -/
def splitDay : Nat → List Nat → Nat → Nat × Nat
  | month, [], day => (month, day + 1)
  | month, length :: rest, day =>
    if day < length then (month, day + 1) else splitDay (month + 1) rest (day - length)

/-- The date of an ordinal. The year is found through cycles of 400, 100, 4 and 1 years. -/
def ofOrdinal (n : Nat) : Date :=
  let n := n - 1
  let n400 := n / 146097
  let n := n % 146097
  let n100 := min (n / 36524) 3
  let n := n - n100 * 36524
  let n4 := n / 1461
  let n := n % 1461
  let n1 := min (n / 365) 3
  let n := n - n1 * 365
  let year := n400 * 400 + n100 * 100 + n4 * 4 + n1 + 1
  let (month, day) := splitDay 1 (monthLengths year) n
  ⟨year, month, day⟩

/-- The last ordinal, 9999-12-31. -/
def lastOrdinal : Nat := 3652059

/-- A date that exists, from year 1 to 9999. -/
def valid (d : Date) : Bool :=
  decide (1 ≤ d.year) && decide (d.year ≤ 9999) && decide (1 ≤ d.day) &&
    decide (d.day ≤ monthLength d.year d.month)

/-- The ordinal of a weekday (1 is Monday) of an ISO week. The first week of a year is the one with
its first Thursday; a 53rd exists in long years only. -/
def weekOrdinal? (year week weekday : Nat) : Option Nat :=
  -- ordinal 1 is a Monday, so `(n + 6) % 7` counts weekdays from Monday
  let first := daysBeforeYear year + 1
  let firstWeekday := (first + 6) % 7
  let long := firstWeekday == 3 || (firstWeekday == 2 && isLeap year)
  if year = 0 ∨ week = 0 ∨ weekday = 0 ∨ weekday > 7 ∨ week > 53 ∨ (week = 53 ∧ !long) then none
  else
    let monday := if firstWeekday > 3 then first + 7 - firstWeekday else first - firstWeekday
    some (monday + (week - 1) * 7 + (weekday - 1))

/-- The date of an ISO week and weekday. -/
def ofWeek? (year week weekday : Nat) : Option Date :=
  (weekOrdinal? year week weekday).bind fun n =>
    if n ≤ lastOrdinal then some (ofOrdinal n) else none

end Date

structure Moment where
  date : Date
  hour : Nat
  minute : Nat
  second : Nat
  micro : Nat
  deriving DecidableEq

namespace Moment

/-- The microseconds since the start of day 0. -/
def micros (m : Moment) : Nat :=
  (((m.date.ordinal * 24 + m.hour) * 60 + m.minute) * 60 + m.second) * 1000000 + m.micro

def ofMicros (n : Nat) : Moment :=
  let seconds := n / 1000000
  let minutes := seconds / 60
  let hours := minutes / 60
  ⟨Date.ofOrdinal (hours / 24), hours % 24, minutes % 60, seconds % 60, n % 1000000⟩

def midnight (d : Date) : Moment := ⟨d, 0, 0, 0, 0⟩

/-- Not later than. -/
def le (a b : Moment) : Bool := decide (a.micros ≤ b.micros)

def addSeconds (m : Moment) (n : Nat) : Moment := ofMicros (m.micros + n * 1000000)

end Moment
end TaskRules
