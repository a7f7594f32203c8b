/-
# Timestamps in YAML

A date, or a date with a time of day and perhaps an offset from universal time.  A date alone is
written in full; before a time of day the month and the day may have one digit.
-/
import Sigil.Moment.Parse
import Sigil.Value.Basic

namespace Sigil.Yaml

/-- The parts of a time of day. -/
structure TimeParts where
  /-- The hour. -/
  hour : Nat
  /-- The minute. -/
  minute : Nat
  /-- The second. -/
  second : Nat
  /-- The microsecond. -/
  microsecond : Nat
  /-- The offset from universal time in microseconds. -/
  offset : Option Int
deriving Repr, DecidableEq

/-- The parts of a timestamp. -/
structure Timestamp where
  /-- The year. -/
  year : Nat
  /-- The month. -/
  month : Nat
  /-- The day of the month. -/
  day : Nat
  /-- The time of day. -/
  time : Option TimeParts
deriving Repr, DecidableEq

/-- A number of one or two digits at the start of a text. -/
def shortNumber? (s : List Char) : Option (Nat × List Char) :=
  (takeNumber? 2 s).or (takeNumber? 1 s)

/-- The fraction of a second in microseconds; further digits do not count. -/
def fraction : List Char → Nat × List Char
  | '.' :: rest =>
    let digits := rest.takeWhile Char.isDigit
    let six := (digits ++ List.replicate 6 '0').take 6
    (six.foldl (fun m c => 10 * m + (c.toNat - 48)) 0, rest.drop digits.length)
  | s => (0, s)

/-- The whole text is an offset from universal time, or is empty. -/
def offset? (s : List Char) : Option (Option Int) :=
  match s with
  | [] => some none
  | _ =>
    match s.dropWhile fun c => c == ' ' || c == '\t' with
    | ['Z'] => some (some 0)
    | c :: rest => do
      let sign : Int ← if c == '+' then some 1 else if c == '-' then some (-1) else none
      let (hour, rest) ← shortNumber? rest
      match rest with
      | [] => some (some (sign * (hour * 3600000000 : Nat)))
      | _ =>
        let (minute, rest) ← takeNumber? 2 (← expectChar? ':' rest)
        if rest.isEmpty then some (some (sign * ((hour * 60 + minute) * 60000000 : Nat))) else none
    | [] => none

/-- The whole text is a time of day. -/
def timeParts? (s : List Char) : Option TimeParts := do
  let (hour, s) ← shortNumber? s
  let (minute, s) ← takeNumber? 2 (← expectChar? ':' s)
  let (second, s) ← takeNumber? 2 (← expectChar? ':' s)
  let (micro, s) := fraction s
  let offset ← offset? s
  pure ⟨hour, minute, second, micro, offset⟩

/-- What is behind the gap between a date and a time of day. -/
def behindDate? : List Char → Option (List Char)
  | c :: rest =>
    if c == 'T' || c == 't' then some rest
    else if c == ' ' || c == '\t' then some (rest.dropWhile fun c => c == ' ' || c == '\t')
    else none
  | [] => none

/-- The whole text is a timestamp; `short` allows numbers of one digit in a date alone. -/
def timestamp? (short : Bool) (s : List Char) : Option Timestamp := do
  let (year, rest) ← takeNumber? 4 s
  let (month, rest) ← shortNumber? (← expectChar? '-' rest)
  let (day, rest) ← shortNumber? (← expectChar? '-' rest)
  match rest with
  | [] => if short || s.length == 10 then some ⟨year, month, day, none⟩ else none
  | _ =>
    let time ← timeParts? (← behindDate? rest)
    pure ⟨year, month, day, some time⟩

/-- The value of a timestamp. -/
def Timestamp.value (t : Timestamp) : Except Fault Value :=
  match t.time with
  | none => (Moment.dayOf t.year t.month t.day).map .day
  | some time => do
    let offset ← time.offset.mapM Moment.offsetOf
    let d ← Moment.dayOf t.year t.month t.day
    let c ← Moment.clockOf time.hour time.minute time.second time.microsecond
    pure (.moment ⟨d, c⟩ offset)

end Sigil.Yaml
