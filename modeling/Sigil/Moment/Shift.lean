/-
# Moving moments

A moment moved by a number of units.  Years, quarters and months move the month and keep the day of
the month, or take the last day of a shorter month; all other units are spans of time.
-/
import Sigil.Moment.Parse

namespace Sigil.Moment

/-- The units of the calendar and the spans of time. -/
inductive Period where
  /-- Twelve months. -/
  | years
  /-- Three months. -/
  | quarters
  /-- Months. -/
  | months
  /-- Seven days. -/
  | weeks
  /-- Days. -/
  | days
  /-- Hours. -/
  | hours
  /-- Minutes. -/
  | minutes
  /-- Seconds. -/
  | seconds
deriving Repr, DecidableEq

/-- The names of the periods. -/
def periodNames : List (String × Period) :=
  [("y", .years), ("year", .years), ("years", .years), ("q", .quarters), ("quarter", .quarters),
   ("quarters", .quarters), ("month", .months), ("months", .months), ("w", .weeks),
   ("week", .weeks), ("weeks", .weeks), ("d", .days), ("day", .days), ("days", .days),
   ("h", .hours), ("hour", .hours), ("hours", .hours), ("m", .minutes), ("minute", .minutes),
   ("minutes", .minutes), ("s", .seconds), ("second", .seconds), ("seconds", .seconds)]

/-- The months or the microseconds of a period. -/
inductive Extent where
  /-- A number of months. -/
  | months (n : Nat)
  /-- A number of microseconds. -/
  | span (n : Nat)

/-- The extent of a period. -/
def Period.extent : Period → Extent
  | years => .months 12
  | quarters => .months 3
  | months => .months 1
  | weeks => .span 604800000000
  | days => .span 86400000000
  | hours => .span 3600000000
  | minutes => .span 60000000
  | seconds => .span 1000000

/-- The months from the start of year 0 to the month of a day. -/
def monthIndex (d : Day) : Int := 12 * (d.year : Int) + (d.month - 1)

/-- The fault of a year that is too large even to be said. -/
def yearFault (year : Int) : Fault :=
  if year < -Int.pow 2 63 || Int.pow 2 63 ≤ year then
    Fault.overflow "Python int too large to convert to C long"
  else if Int.pow 2 31 ≤ year then Fault.overflow "signed integer is greater than maximum"
  else if year < -Int.pow 2 31 then Fault.overflow "signed integer is less than minimum"
  else yearOutOfRange year

/-- The moment moved by months. -/
def addMonths (m : Moment) (n : Int) : Except Fault Moment :=
  let index := monthIndex m.day + n
  let year := Int.fdiv index 12
  let month := (Int.fmod index 12).toNat + 1
  if year < 1 || 9999 < year then .error (yearFault year)
  else
    match Day.of? year.toNat month (min m.day.day (daysInMonth year.toNat month)) with
    | some d => .ok { m with day := d }
    | none => .error (yearFault year)

/-- A number of microseconds that is a whole number of units, and the nearest number of
microseconds where it is not: whole units are exact, and the fraction is rounded once it is
multiplied, a half going to the even number of microseconds. -/
def spanOf (unit : Nat) : Number → Except Number.Problem Int
  | .int n => .ok (n * unit)
  | .float x => do
    let d ← Number.finite x
    let whole := d.truncate
    let fraction := x - (Decimal.Binary.ofInt whole).toFloat
    let product := Float.ofNat unit * fraction
    let p ← Number.finite product
    let exact : Int := whole * unit + p.truncate
    let left := product - (Decimal.Binary.ofInt p.truncate).toFloat
    let half ← Number.finite left
    let magnitude := Decimal.Binary.floor { half with negative := false }
    let twice := Decimal.Binary.compare { half with negative := false } ⟨false, 1, -1⟩
    let step : Int :=
      match twice with
      | .lt => 0
      | .gt => 1
      | .eq => if exact % 2 == 0 then 0 else 1
    pure (exact + (if half.negative then -(magnitude + step) else magnitude + step))

/-- The greatest number of days of a span. -/
def spanLimit : Int := 999999999

/-- The moment moved by microseconds. -/
def addSpan (m : Moment) (n : Int) : Except Fault Moment :=
  let days := Int.fdiv n 86400000000
  if days < -Int.pow 2 31 || Int.pow 2 31 ≤ days then
    .error (Fault.overflow "Python int too large to convert to C int")
  else if days < -spanLimit || spanLimit < days then
    .error (Fault.overflow ("days=" ++ Decimal.ofInt days ++ "; must have magnitude <= "
      ++ Decimal.ofInt spanLimit))
  else match ofMicroseconds? ((m.microseconds : Int) + n) with
    | some t => .ok t
    | none => .error (Fault.overflow "date value out of range")

/-- The moment moved by a number of periods; a fraction of a month does not count. -/
def shift (m : Moment) (period : Period) (n : Number) : Except Fault Moment :=
  match period.extent with
  | .months k => do
    let whole ← n.truncate.mapError (·.fault)
    m.addMonths (whole * k)
  | .span k => do
    let span ← (spanOf k n).mapError (·.fault)
    m.addSpan span

end Sigil.Moment
