/-
# The Gregorian calendar

Leap years, month lengths, and the numbering of days: day `1` is the first of January of year `1`.
A `Day` is a date of the years 1 to 9999 that exists, and a `Clock` a time of day down to the
microsecond; together they are a `Moment`.
-/

namespace Sigil

/-- The leap year rule. -/
def isLeapYear (year : Nat) : Bool := year % 4 == 0 && (year % 100 != 0 || year % 400 == 0)

/-- The number of days of a month. -/
def daysInMonth (year month : Nat) : Nat :=
  if month == 2 then (if isLeapYear year then 29 else 28)
  else if month == 4 || month == 6 || month == 9 || month == 11 then 30
  else 31

/-- A date that exists, in the years 1 to 9999. -/
structure Day where
  /-- The year. -/
  year : Nat
  /-- The month, from 1. -/
  month : Nat
  /-- The day of the month, from 1. -/
  day : Nat
  year_pos : 1 ≤ year
  year_le : year ≤ 9999
  month_pos : 1 ≤ month
  month_le : month ≤ 12
  day_pos : 1 ≤ day
  day_le : day ≤ daysInMonth year month
deriving DecidableEq

/-- A time of day. -/
structure Clock where
  /-- The hour, from 0 to 23. -/
  hour : Nat
  /-- The minute. -/
  minute : Nat
  /-- The second. -/
  second : Nat
  /-- The microsecond. -/
  microsecond : Nat
  hour_lt : hour < 24
  minute_lt : minute < 60
  second_lt : second < 60
  microsecond_lt : microsecond < 1000000
deriving DecidableEq

/-- A day and a time of that day. -/
structure Moment where
  /-- The day. -/
  day : Day
  /-- The time of day. -/
  clock : Clock
deriving DecidableEq

namespace Day

/-- The date with the given parts, if it exists. -/
def of? (year month day : Nat) : Option Day :=
  if h : 1 ≤ year ∧ year ≤ 9999 ∧ 1 ≤ month ∧ month ≤ 12 ∧ 1 ≤ day
      ∧ day ≤ daysInMonth year month then
    some ⟨year, month, day, h.1, h.2.1, h.2.2.1, h.2.2.2.1, h.2.2.2.2.1, h.2.2.2.2.2⟩
  else none

/-- The first day of the calendar. -/
def first : Day := ⟨1, 1, 1, by decide, by decide, by decide, by decide, by decide, by decide⟩

/-- The number of days before a year. -/
def daysBeforeYear (year : Nat) : Nat :=
  let y := year - 1
  y * 365 + y / 4 - y / 100 + y / 400

/-- The number of days of a year before a month. -/
def daysBeforeMonth (year month : Nat) : Nat :=
  ((List.range (month - 1)).map fun m => daysInMonth year (m + 1)).foldl (· + ·) 0

/-- The number of the day within its year, from 1. -/
def dayOfYear (d : Day) : Nat := daysBeforeMonth d.year d.month + d.day

/-- The number of the day, counted from the first day of the calendar. -/
def number (d : Day) : Nat := daysBeforeYear d.year + d.dayOfYear

/-- The year of a day number: the last one that begins before it. -/
def yearOfNumber (n : Nat) : Nat :=
  let guess := n * 400 / 146097 + 1
  if n ≤ daysBeforeYear guess then guess - 1
  else if daysBeforeYear (guess + 1) < n then guess + 1 else guess

/-- The month and day of the month of the `n`-th day of a year, starting the search at a month. -/
def monthDay (year : Nat) : Nat → Nat → Nat → Nat × Nat
  | 0, month, n => (month, n)
  | fuel + 1, month, n =>
    if n ≤ daysInMonth year month then (month, n)
    else monthDay year fuel (month + 1) (n - daysInMonth year month)

/-- The day with a given number, if it lies in the calendar. -/
def ofNumber? (n : Int) : Option Day :=
  if n < 1 then none
  else
    let year := yearOfNumber n.toNat
    let (month, day) := monthDay year 12 1 (n.toNat - daysBeforeYear year)
    of? year month day

/-- The day of the week, Monday being 0. -/
def weekday (d : Day) : Nat := (d.number + 6) % 7

end Day

namespace Clock

/-- The time of day with the given parts, if it exists. -/
def of? (hour minute second microsecond : Nat) : Option Clock :=
  if h : hour < 24 ∧ minute < 60 ∧ second < 60 ∧ microsecond < 1000000 then
    some ⟨hour, minute, second, microsecond, h.1, h.2.1, h.2.2.1, h.2.2.2⟩
  else none

/-- The start of the day. -/
def midnight : Clock := ⟨0, 0, 0, 0, by decide, by decide, by decide, by decide⟩

/-- The whole seconds since the start of the day. -/
def seconds (c : Clock) : Nat := (c.hour * 60 + c.minute) * 60 + c.second

end Clock

namespace Moment

/-- The number of the day on which Unix time starts. -/
def epochDay : Nat := 719163

/-- The microseconds since the start of the calendar's first day. -/
def microseconds (m : Moment) : Nat :=
  ((m.day.number - 1) * 86400 + m.clock.seconds) * 1000000 + m.clock.microsecond

/-- The moment a number of microseconds after the start of the calendar, if it lies in it. -/
def ofMicroseconds? (n : Int) : Option Moment :=
  if n < 0 then none
  else
    let total := n.toNat
    let seconds := total / 1000000
    let rest := seconds % 86400
    match Day.ofNumber? (seconds / 86400 + 1),
      Clock.of? (rest / 3600) (rest / 60 % 60) (rest % 60) (total % 1000000) with
    | some d, some c => some ⟨d, c⟩
    | _, _ => none

/-- The whole seconds since the start of Unix time. -/
def unixSeconds (m : Moment) : Int :=
  ((m.day.number : Int) - epochDay) * 86400 + m.clock.seconds

end Moment

end Sigil
