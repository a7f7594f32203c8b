/-
# Reading moments

What the directives of a template read determines a moment: parts that are not read are those of the
start of the year 1900.  The day may also be given by its number within the year, or by a week and a
day of the week.
-/
import Sigil.Moment.Template

namespace Sigil.Moment

open Sigil.Text

/-- The reading of a directive. -/
def reading? (rs : Readings) (letter : Char) : Option (List Char) :=
  (rs.find? (·.1 == letter)).map (·.2)

/-- The number that a directive reads. -/
def numberOf? (rs : Readings) (letter : Char) : Option Nat :=
  (reading? rs letter).map fun s => Decimal.digitsValue (s.filter (· != ' '))

/-- The last of some directives that a template holds, with its reading. -/
def lastReading? (rs : Readings) (letters : List Char) : Option (Char × List Char) :=
  (rs.filter fun r => letters.contains r.1).getLast?

/-- The fault of a name that is not in a list. -/
def notInList (s : List Char) : Fault :=
  Fault.value (quoted (String.ofList s) ++ " is not in list")

/-- The place of a name in a list of names. -/
def nameIndex (names : List String) (s : List Char) : Except Fault Nat :=
  let small := String.ofList (lower s)
  match (names.map fun n => String.ofList (lower n.toList)).findIdx? (· == small) with
  | some i => .ok i
  | none => .error (notInList (lower s))

/-- The year of two digits: up to 68 in the present century, from 69 on in the last one. -/
def centuryYear (n : Nat) : Nat := if n ≤ 68 then 2000 + n else 1900 + n

/-- The year that is read. -/
def readYear? (rs : Readings) : Option Nat :=
  match lastReading? rs ['y', 'Y'] with
  | some ('y', s) => some (centuryYear (Decimal.digitsValue s))
  | some (_, s) => some (Decimal.digitsValue s)
  | none => none

/-- The month that is read. -/
def readMonth (rs : Readings) : Except Fault Nat :=
  match lastReading? rs ['m', 'B', 'b'] with
  | some ('m', s) => .ok (Decimal.digitsValue s)
  | some ('B', s) => (nameIndex monthNames s).map (· + 1)
  | some (_, s) => (nameIndex shortMonthNames s).map (· + 1)
  | none => .ok 1

/-- The hour of the day from the hour of a half day. -/
def hourOfHalfDay (half : Option (List Char)) (hour : Nat) : Nat :=
  match half.map fun s => String.ofList (lower s) with
  | some "pm" => if hour == 12 then 12 else hour + 12
  | _ => if hour == 12 then 0 else hour

/-- The hour that is read. -/
def readHour (rs : Readings) : Nat :=
  match lastReading? rs ['H', 'I'] with
  | some ('H', s) => Decimal.digitsValue s
  | some (_, s) => hourOfHalfDay (reading? rs 'p') (Decimal.digitsValue s)
  | none => 0

/-- The microseconds of up to six digits after a point. -/
def microsecondsOf (digits : List Char) : Nat :=
  Decimal.digitsValue (digits ++ List.replicate (6 - digits.length) '0')

/-- The fraction of a second that is read, in microseconds. -/
def readFraction (rs : Readings) : Nat :=
  match reading? rs 'f' with
  | some s => microsecondsOf s
  | none => 0

/-- The day of the week that is read, Monday being 0. -/
def readWeekday? (rs : Readings) : Except Fault (Option Nat) :=
  match lastReading? rs ['A', 'a', 'w', 'u'] with
  | some ('A', s) => (nameIndex weekdayNames s).map some
  | some ('a', s) => (nameIndex shortWeekdayNames s).map some
  | some ('w', s) => .ok (some ((Decimal.digitsValue s + 6) % 7))
  | some (_, s) => .ok (some (Decimal.digitsValue s - 1))
  | none => .ok none

/-- The fault of a year outside the calendar. -/
def yearOutOfRange (year : Int) : Fault :=
  Fault.value ("year " ++ Decimal.ofInt year ++ " is out of range")

/-- The date with the given parts; the first part out of range is reported. -/
def dayOf (year : Int) (month day : Nat) : Except Fault Day :=
  if year < 1 || 9999 < year then .error (yearOutOfRange year)
  else if month < 1 || 12 < month then .error (Fault.value "month must be in 1..12")
  else match Day.of? year.toNat month day with
    | some d => .ok d
    | none => .error (Fault.value "day is out of range for month")

/-- The time of day with the given parts. -/
def clockOf (hour minute second microsecond : Nat) : Except Fault Clock :=
  match Clock.of? hour minute second microsecond with
  | some c => .ok c
  | none => .error (Fault.value (if 23 < hour then "hour must be in 0..23"
      else if 59 < minute then "minute must be in 0..59"
      else if 59 < second then "second must be in 0..59"
      else "microsecond must be in 0..999999"))

/-- The offset from universal time in microseconds, which is less than a day. -/
def offsetOf (microseconds : Int) : Except Fault Int :=
  if microseconds.natAbs < 86400000000 then .ok microseconds
  else .error (Fault.value ("offset must be a timedelta strictly between "
    ++ "-timedelta(hours=24) and timedelta(hours=24), not " ++ shownSpan microseconds ++ "."))

/-- The digits of an offset, and those of its fraction behind the point, given by its sign and what
is behind it.  If there is a colon behind the hours, there is one before the seconds too, and
otherwise there is none. -/
def offsetDigits (sign : Char) (s : List Char) : Except Fault (List Char) :=
  match s with
  | a :: b :: ':' :: c :: d :: rest =>
    match rest with
    | [] => .ok [a, b, c, d]
    | ':' :: more => .ok (a :: b :: c :: d :: more)
    | _ => .error (Fault.value ("Inconsistent use of : in " ++ String.ofList (sign :: s)))
  | _ :: _ :: _ :: _ :: ':' :: e :: _ =>
    .error (Decimal.NumeralError.fault (.notInteger (String.ofList [':', e])))
  | s => .ok s

/-- The offset that is read, in microseconds. -/
def readOffset (rs : Readings) : Except Fault (Option Int) :=
  match reading? rs 'z' with
  | none => .ok none
  | some ['Z'] => .ok (some 0)
  | some [] => .ok none
  | some (sign :: s) => do
    let digits ← offsetDigits sign s
    let part (n : Nat) : Nat := Decimal.digitsValue ((digits.drop n).take 2)
    let seconds := (part 0 * 60 + part 2) * 60 + part 4
    let n : Int := seconds * 1000000 + microsecondsOf (digits.drop 7)
    pure (some (if sign == '-' then -n else n))

/-- The number within its year of a day given by a week and a day of the week; weeks begin on
Monday or on Sunday, and those before the first such day are week 0. -/
def dayOfWeek (year : Int) (week weekday : Nat) (mondayFirst : Bool) : Except Fault Int := do
  let start ← dayOf year 1 1
  let first : Int := if mondayFirst then start.weekday else (start.weekday + 1) % 7
  let day : Int := if mondayFirst then weekday else (weekday + 1) % 7
  if week == 0 then pure (1 + day - first)
  else pure (1 + (7 - first) % 7 + 7 * ((week : Int) - 1) + day)

/-- The year and the number within it of a day given by a numbered week: week 1 holds the fourth of
January, and weeks begin on Monday. -/
def dayOfNumberedWeek (year : Int) (week weekday : Nat) : Except Fault (Int × Int) := do
  let fourth ← dayOf year 1 4
  let ordinal : Int := week * 7 + (weekday + 1) - (fourth.weekday + 1 + 3)
  if ordinal < 1 then do
    let this ← dayOf year 1 1
    let last ← dayOf (year - 1) 1 1
    pure (year - 1, ordinal + this.number - last.number)
  else pure (year, ordinal)

/-- The directives for a numbered week come together or not at all. -/
def checkNumberedWeek (rs : Readings) (weekday : Option Nat) : Except Fault Unit :=
  match numberOf? rs 'G', numberOf? rs 'V' with
  | some _, week =>
    if (numberOf? rs 'j').isSome then .error (Fault.value
      ("Day of the year directive '%j' is not compatible with ISO year directive '%G'. "
        ++ "Use '%Y' instead."))
    else if week.isNone || weekday.isNone then .error (Fault.value
      ("ISO year directive '%G' must be used with the ISO week directive '%V' and "
        ++ "a weekday directive ('%A', '%a', '%w', or '%u')."))
    else .ok ()
  | none, some _ =>
    if (readYear? rs).isNone || weekday.isNone then .error (Fault.value
      ("ISO week directive '%V' must be used with the ISO year directive '%G' and "
        ++ "a weekday directive ('%A', '%a', '%w', or '%u')."))
    else .error (Fault.value
      ("ISO week directive '%V' is incompatible with the year directive '%Y'. "
        ++ "Use the ISO year '%G' instead."))
  | none, none => .ok ()

/-- The year and the number within it of a day that is not given by month and day. -/
def numberedDay (rs : Readings) (year : Int) (weekday : Option Nat) :
    Except Fault (Option (Int × Int)) :=
  match numberOf? rs 'j', weekday, lastReading? rs ['U', 'W'], numberOf? rs 'G',
    numberOf? rs 'V' with
  | some n, _, _, _, _ => .ok (some (year, n))
  | none, some w, some (letter, s), _, _ => do
    let n ← dayOfWeek year (Decimal.digitsValue s) w (letter == 'W')
    pure (some (year, n))
  | none, some w, none, some isoYear, some week => do
    let (y, n) ← dayOfNumberedWeek isoYear week w
    pure (some (y, n))
  | _, _, _, _, _ => .ok none

/-- A day number within a year, moved to the year before if it lies there. -/
def normalizeNumber (year n : Int) : Int × Int :=
  if n ≤ 0 then (year - 1, n + (if isLeapYear (year - 1).toNat then 366 else 365)) else (year, n)

/-- The day of a number within a year. -/
def dayOfNumber (year n : Int) : Except Fault Day := do
  let start ← dayOf year 1 1
  match Day.ofNumber? (start.number + n - 1) with
  | some d => .ok d
  | none => .error (yearOutOfRange (year + 1))

/-- The day that is read.  Without a year it lies in 1900, which has no leap day. -/
def readDay (rs : Readings) : Except Fault Day := do
  let month ← readMonth rs
  let day := (numberOf? rs 'd').getD 1
  let weekday ← readWeekday? rs
  checkNumberedWeek rs weekday
  let year : Int := ((readYear? rs).getD 1900 : Nat)
  match ← numberedDay rs year weekday with
  | some (y, n) =>
    let (y, n) := normalizeNumber y n
    dayOfNumber y n
  | none => dayOf year month day

/-- The moment that is read. -/
def ofReadings (rs : Readings) : Except Fault Zoned := do
  let microseconds ← readOffset rs
  let d ← readDay rs
  let offset ← microseconds.mapM offsetOf
  let c ← clockOf (readHour rs) ((numberOf? rs 'M').getD 0) ((numberOf? rs 'S').getD 0)
    (readFraction rs)
  pure (⟨d, c⟩, offset)

/-- The fault of a template. -/
def TemplateError.fault (template : List Char) : TemplateError → Fault
  | stray => Fault.value ("stray % in format '" ++ String.ofList template ++ "'")
  | unknown letter => Fault.value ("'" ++ String.singleton letter
      ++ "' is a bad directive in format '" ++ String.ofList template ++ "'")
  | repeated => ⟨.pattern, none⟩

/-- The moment written in a template. -/
def parseTemplate (text : String) (template : List Char) : Except Fault Zoned := do
  let es ← (elements template).mapError (·.fault template)
  match matchElements es text.toList with
  | none => .error (Fault.value ("time data " ++ quoted text ++ " does not match format "
      ++ quoted (String.ofList template)))
  | some (rs, rest) =>
    if rest.isEmpty then ofReadings rs
    else .error (Fault.value ("unconverted data remains: " ++ String.ofList rest))

/-- The moment written in a format. -/
def parse (text fmt : String) : Except Fault Zoned := parseTemplate text (templateText fmt.toList)

end Sigil.Moment
