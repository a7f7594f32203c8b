/-
# Written dates and times

The form year, month, day with hyphens and hour, minute, second with colons; microseconds are
written, with six digits, only if there are any.
-/
import Sigil.Decimal.Notation
import Sigil.Moment.Calendar

namespace Sigil

open Decimal (padZeros natDigits)

/-- A number with zeros in front up to a width. -/
def paddedNat (width n : Nat) : String := String.ofList (padZeros width (natDigits n))

/-- The written form of a date. -/
def Day.iso (d : Day) : String := s!"{paddedNat 4 d.year}-{paddedNat 2 d.month}-{paddedNat 2 d.day}"

/-- The written form of a time of day. -/
def Clock.iso (c : Clock) : String :=
  let whole := s!"{paddedNat 2 c.hour}:{paddedNat 2 c.minute}:{paddedNat 2 c.second}"
  if c.microsecond == 0 then whole else s!"{whole}.{paddedNat 6 c.microsecond}"

/-- The written form of a moment with the given separator. -/
def Moment.iso (separator : String) (m : Moment) : String := m.day.iso ++ separator ++ m.clock.iso

/-- The written form of an offset from universal time, given in microseconds.  Seconds are written
only if it has no whole minutes, and their fraction only if it has no whole seconds. -/
def isoOffset (microseconds : Int) : String :=
  let n := microseconds.natAbs
  let seconds := n / 1000000
  let sign := if microseconds < 0 then "-" else "+"
  let fraction := if n % 1000000 == 0 then "" else s!".{paddedNat 6 (n % 1000000)}"
  let tail := if n % 60000000 == 0 then "" else s!":{paddedNat 2 (seconds % 60)}{fraction}"
  s!"{sign}{paddedNat 2 (seconds / 3600)}:{paddedNat 2 (seconds / 60 % 60)}{tail}"

/-- A moment, and its offset from universal time in microseconds if it has one. -/
abbrev Zoned := Moment × Option Int

/-- The text that shows a span of microseconds in messages: its days, and the seconds and the
microseconds beyond them. -/
def shownSpan (microseconds : Int) : String :=
  let rest := Int.fmod microseconds 86400000000
  let named := [("days=", Int.fdiv microseconds 86400000000), ("seconds=", rest / 1000000),
    ("microseconds=", rest % 1000000)]
  let parts := (named.filter (·.2 != 0)).map fun (name, n) => name ++ Decimal.ofInt n
  "datetime.timedelta(" ++ (if parts.isEmpty then "0" else ", ".intercalate parts) ++ ")"

/-- The value of a run of ASCII digits of the given length at the start of a text. -/
def takeNumber? (width : Nat) (s : List Char) : Option (Nat × List Char) :=
  let digits := s.take width
  if digits.length == width && digits.all Char.isDigit then
    some (digits.foldl (fun n c => 10 * n + (c.toNat - 48)) 0, s.drop width)
  else none

/-- Passes over a character. -/
def expectChar? (c : Char) : List Char → Option (List Char)
  | d :: rest => if c == d then some rest else none
  | [] => none

/-- Reads a date at the start of a text. -/
def Day.takeIso? (s : List Char) : Option (Day × List Char) := do
  let (year, s) ← takeNumber? 4 s
  let (month, s) ← takeNumber? 2 (← expectChar? '-' s)
  let (day, s) ← takeNumber? 2 (← expectChar? '-' s)
  let d ← Day.of? year month day
  pure (d, s)

/-- Reads a fraction of a second at the start of a text, in microseconds, with up to six digits
after the point; without a point there is none. -/
def takeFraction? : List Char → Option (Nat × List Char)
  | '.' :: rest =>
    let six := (rest.takeWhile Char.isDigit ++ List.replicate 6 '0').take 6
    (takeNumber? 6 six).map fun (n, _) => (n, rest.dropWhile Char.isDigit)
  | s => some (0, s)

/-- Reads a time of day at the start of a text. -/
def Clock.takeIso? (s : List Char) : Option (Clock × List Char) := do
  let (hour, s) ← takeNumber? 2 s
  let (minute, s) ← takeNumber? 2 (← expectChar? ':' s)
  let (second, s) ← takeNumber? 2 (← expectChar? ':' s)
  let (microsecond, s) ← takeFraction? s
  let c ← Clock.of? hour minute second microsecond
  pure (c, s)

/-- The date a text is the written form of. -/
def Day.ofIso? (s : String) : Option Day :=
  match Day.takeIso? s.toList with
  | some (d, []) => some d
  | _ => none

/-- The time of day a text is the written form of. -/
def Clock.ofIso? (s : String) : Option Clock :=
  match Clock.takeIso? s.toList with
  | some (c, []) => some c
  | _ => none

/-- Reads a moment at the start of a text, with any separator; the time of day may be missing. -/
def Moment.takeIso? (s : List Char) : Option (Moment × List Char) := do
  let (d, rest) ← Day.takeIso? s
  match rest with
  | [] => pure (⟨d, Clock.midnight⟩, [])
  | _ :: t => do
    let (c, rest) ← Clock.takeIso? t
    pure (⟨d, c⟩, rest)

/-- The offset from universal time in microseconds that a text is the written form of. -/
def offsetOfIso? (s : List Char) : Option Int :=
  match s with
  | ['Z'] => some 0
  | sign :: rest =>
    if sign == '+' || sign == '-' then do
      let (hour, rest) ← takeNumber? 2 rest
      let (minute, rest) ← takeNumber? 2 (← expectChar? ':' rest)
      let (second, rest) ← match rest with
        | ':' :: rest => takeNumber? 2 rest
        | rest => some (0, rest)
      let (fraction, rest) ← takeFraction? rest
      let n : Int := ((hour * 60 + minute) * 60 + second) * 1000000 + fraction
      if rest.isEmpty then pure (if sign == '-' then -n else n) else none
    else none
  | [] => none

/-- The moment, and the offset if there is one, that a text is the written form of. -/
def Moment.ofIso? (s : String) : Option Zoned := do
  let (m, rest) ← Moment.takeIso? s.toList
  match rest with
  | [] => pure (m, none)
  | rest => do
    let offset ← offsetOfIso? rest
    pure (m, some offset)

end Sigil
