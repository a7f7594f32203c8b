/-
# Formats of moments

A format is a text in which certain runs of letters stand for parts of a moment; text between
brackets stands for itself.  This file cuts a format into its pieces and writes a moment in it.
-/
import Sigil.Moment.Iso
import Sigil.Number.Basic

namespace Sigil.Moment

/-- The parts of a moment that a format can name. -/
inductive Part where
  /-- The year with four digits. -/
  | year
  /-- The year with two digits. -/
  | shortYear
  /-- The name of the month. -/
  | monthName
  /-- The short name of the month. -/
  | shortMonthName
  /-- The month with two digits. -/
  | month
  /-- The month. -/
  | plainMonth
  /-- The day of the year with three digits. -/
  | dayOfYear
  /-- The day with two digits. -/
  | day
  /-- The day as an ordinal number. -/
  | ordinalDay
  /-- The day. -/
  | plainDay
  /-- The name of the day of the week. -/
  | weekdayName
  /-- The short name of the day of the week. -/
  | shortWeekdayName
  /-- The hour with two digits. -/
  | hour
  /-- The hour. -/
  | plainHour
  /-- The hour of the half day with two digits. -/
  | halfDayHour
  /-- The hour of the half day. -/
  | plainHalfDayHour
  /-- The minute with two digits. -/
  | minute
  /-- The minute. -/
  | plainMinute
  /-- The second with two digits. -/
  | second
  /-- The second. -/
  | plainSecond
  /-- The millisecond with three digits. -/
  | millisecond
  /-- The half of the day in capitals. -/
  | halfDay
  /-- The half of the day. -/
  | smallHalfDay
  /-- The seconds of Unix time. -/
  | unixSeconds
  /-- The milliseconds of Unix time. -/
  | unixMilliseconds
deriving Repr, DecidableEq

/-- The letters of the parts; where several fit, the first in this list is meant. -/
def partLetters : List (String × Part) :=
  [("YYYY", .year), ("YY", .shortYear), ("MMMM", .monthName), ("MMM", .shortMonthName),
   ("MM", .month), ("M", .plainMonth), ("DDDD", .dayOfYear), ("DD", .day), ("Do", .ordinalDay),
   ("D", .plainDay), ("dddd", .weekdayName), ("ddd", .shortWeekdayName), ("HH", .hour),
   ("H", .plainHour), ("hh", .halfDayHour), ("h", .plainHalfDayHour), ("mm", .minute),
   ("m", .plainMinute), ("ss", .second), ("s", .plainSecond), ("SSS", .millisecond),
   ("A", .halfDay), ("a", .smallHalfDay), ("X", .unixSeconds), ("x", .unixMilliseconds)]

/-- The letters of a part. -/
def Part.letters (p : Part) : List Char :=
  (((partLetters.find? (·.2 == p)).map (·.1)).getD "").toList

/-- A piece of a format. -/
inductive Piece where
  /-- A character that stands for itself. -/
  | literal (c : Char)
  /-- Text between brackets. -/
  | bracketed (text : List Char)
  /-- A part of the moment. -/
  | part (p : Part)
deriving Repr, DecidableEq

/-- The text up to a closing bracket. -/
def bracketText? (s : List Char) : Option (List Char) :=
  let inner := s.takeWhile (· != ']')
  if inner.length < s.length then some inner else none

/-- The piece at the start of `c :: rest`, and the number of characters it takes. -/
def pieceAt (c : Char) (rest : List Char) : Piece × Nat :=
  let bracketed := if c == '[' then bracketText? rest else none
  match bracketed with
  | some inner => (.bracketed inner, inner.length + 2)
  | none =>
    match partLetters.find? fun (letters, _) => letters.toList.isPrefixOf (c :: rest) with
    | some (letters, p) => (.part p, letters.length)
    | none => (.literal c, 1)

/-- The pieces of a format, where `skip` characters belong to a piece already taken. -/
def piecesFrom : Nat → List Char → List Piece
  | _, [] => []
  | skip + 1, _ :: rest => piecesFrom skip rest
  | 0, c :: rest =>
    let (piece, taken) := pieceAt c rest
    piece :: piecesFrom (taken - 1) rest

/-- The pieces of a format. -/
def pieces (format : List Char) : List Piece := piecesFrom 0 format

/-- The names of the months. -/
def monthNames : List String :=
  ["January", "February", "March", "April", "May", "June", "July", "August", "September",
   "October", "November", "December"]

/-- The short names of the months. -/
def shortMonthNames : List String :=
  ["Jan", "Feb", "Mar", "Apr", "May", "Jun", "Jul", "Aug", "Sep", "Oct", "Nov", "Dec"]

/-- The names of the days of the week. -/
def weekdayNames : List String :=
  ["Monday", "Tuesday", "Wednesday", "Thursday", "Friday", "Saturday", "Sunday"]

/-- The short names of the days of the week. -/
def shortWeekdayNames : List String := ["Mon", "Tue", "Wed", "Thu", "Fri", "Sat", "Sun"]

/-- A number as an ordinal number. -/
def ordinal (n : Nat) : String :=
  let suffix :=
    if 10 ≤ n % 100 && n % 100 ≤ 20 then "th"
    else match n % 10 with
      | 1 => "st"
      | 2 => "nd"
      | 3 => "rd"
      | _ => "th"
  paddedNat 1 n ++ suffix

/-- The hour of the half day, from 1 to 12. -/
def Clock.halfDayHour (c : Clock) : Nat := if c.hour % 12 == 0 then 12 else c.hour % 12

/-- The seconds of Unix time with their fraction, as a float.  With an offset from universal time,
it is the float nearest to them; without one, the whole seconds and the fraction are rounded and
added, and there is none for the first day of the calendar, since the day before it is looked at. -/
def unixTime (m : Moment) (offset : Option Int) : Except Fault Float :=
  match offset with
  | some o =>
    let n : Int := m.unixSeconds * 1000000 + m.clock.microsecond - o
    .ok (Decimal.Binary.ofQuotient (decide (n < 0)) n.natAbs 1000000).toFloat
  | none =>
    if m.day.number ≤ 1 then .error (Fault.value "year 0 is out of range")
    else
      let whole := (Decimal.Binary.ofInt m.unixSeconds).toFloat
      let fraction := (Decimal.Binary.ofQuotient false m.clock.microsecond 1000000).toFloat
      .ok (whole + fraction)

/-- The integer part of a float that is finite. -/
def integerPart (x : Float) : Int := ((Decimal.Binary.ofFloat? x).map (·.truncate)).getD 0

/-- The text of a part of a moment. -/
def Part.render (m : Moment) (offset : Option Int) : Part → Except Fault String
  | year => .ok (paddedNat 4 m.day.year)
  | shortYear => .ok (paddedNat 2 (m.day.year % 100))
  | monthName => .ok ((monthNames[m.day.month - 1]?).getD "")
  | shortMonthName => .ok ((shortMonthNames[m.day.month - 1]?).getD "")
  | month => .ok (paddedNat 2 m.day.month)
  | plainMonth => .ok (paddedNat 1 m.day.month)
  | dayOfYear => .ok (paddedNat 3 m.day.dayOfYear)
  | day => .ok (paddedNat 2 m.day.day)
  | ordinalDay => .ok (ordinal m.day.day)
  | plainDay => .ok (paddedNat 1 m.day.day)
  | weekdayName => .ok ((weekdayNames[m.day.weekday]?).getD "")
  | shortWeekdayName => .ok ((shortWeekdayNames[m.day.weekday]?).getD "")
  | hour => .ok (paddedNat 2 m.clock.hour)
  | plainHour => .ok (paddedNat 1 m.clock.hour)
  | halfDayHour => .ok (paddedNat 2 (Clock.halfDayHour m.clock))
  | plainHalfDayHour => .ok (paddedNat 1 (Clock.halfDayHour m.clock))
  | minute => .ok (paddedNat 2 m.clock.minute)
  | plainMinute => .ok (paddedNat 1 m.clock.minute)
  | second => .ok (paddedNat 2 m.clock.second)
  | plainSecond => .ok (paddedNat 1 m.clock.second)
  | millisecond => .ok (paddedNat 3 (m.clock.microsecond / 1000))
  | halfDay => .ok (if m.clock.hour < 12 then "AM" else "PM")
  | smallHalfDay => .ok (if m.clock.hour < 12 then "am" else "pm")
  | unixSeconds => do
    let t ← m.unixTime offset
    pure (Decimal.ofInt (integerPart t))
  | unixMilliseconds => do
    let t ← m.unixTime offset
    pure (Decimal.ofInt (integerPart (t * 1000)))

/-- The text of a piece of a format. -/
def Piece.render (m : Moment) (offset : Option Int) : Piece → Except Fault String
  | literal c => .ok (String.singleton c)
  | bracketed text => .ok (String.ofList text)
  | part p => p.render m offset

/-- The text of a moment, which may have an offset from universal time, in a format. -/
def format (m : Moment) (offset : Option Int) (fmt : String) : Except Fault String := do
  let parts ← (pieces fmt.toList).mapM (·.render m offset)
  pure (String.join parts)

end Sigil.Moment
