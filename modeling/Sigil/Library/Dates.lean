/-
# Dates

The present moment and moments read from a text, written in a format, moved by a period, or replaced
by the last instant of their month.
-/
import Sigil.Library.Function
import Sigil.Moment.Shift

namespace Sigil.Library

/-- The moment moved by a number of the periods that an argument names. -/
def shiftBy (m : Moment) (period amount : Value) : Except Fault Moment := do
  let text ← period.toText
  let name := String.ofList (Text.lower (Text.strip text.toList))
  match Moment.periodNames.lookup name with
  | some p => do
    let n ← number amount
    m.shift p n
  | none => .error (Fault.worded .value (period.shown.map ("unknown date period " ++ ·)))

/-- The moment moved, if a period is given. -/
def shiftIfGiven (z : Zoned) (period amount : Value) : Except Fault Zoned :=
  if period.isTruthy then (shiftBy z.1 period amount).map fun m => (m, z.2) else .ok z

/-- The argument asks for capitals: it counts as true and is not the word for false. -/
def isFlag (v : Value) : Bool :=
  match v with
  | .text s => !s.isEmpty && s != "false"
  | v => v.isTruthy

/-- The text of a moment in a format, in capitals if asked for. -/
def writeMoment (z : Zoned) (format : String) (uppercase : Value) : Result := do
  let text ← z.1.format z.2 format
  pure (if isFlag uppercase then textValue (Text.upper text.toList) else .text text)

/-- The text of a format, or a text in its place if none is given. -/
def formatOr (v : Value) (default : String) : Except Fault String :=
  if v.isTruthy then v.toText else .ok default

/-- The format of dates where none is given. -/
def defaultDateFormat : String := "YYYYMMDD"

/-- The format of the present moment where none is given. -/
def defaultNowFormat : String := "YYYY-MM-DDTHH:mm:ss"

/-- The moment that an argument gives in a format; the present one if there is no argument. -/
def momentOr (h : Host) (date : Value) (format : String) : Except Fault Zoned :=
  if date.isTruthy then do
    let text ← date.toText
    Moment.parse text format
  else .ok (h.now, none)

/-- The present moment, moved if a period is given. -/
def presentMoment (h : Host) (format period amount uppercase : Value) : Result := do
  let z ← shiftIfGiven (h.now, none) period amount
  let f ← format.toText
  writeMoment z f uppercase

/-- A date from one format into another, moved if a period is given. -/
def restateDate (h : Host) (date format output period amount uppercase : Value) : Result := do
  let f ← formatOr format defaultDateFormat
  let o ← formatOr output f
  let z ← momentOr h date f
  let moved ← shiftIfGiven z period amount
  writeMoment moved o uppercase

/-- The last millisecond of a month. -/
def endOfMonth (m : Moment) : Moment :=
  match Day.of? m.day.year m.day.month (daysInMonth m.day.year m.day.month),
    Clock.of? 23 59 59 999000 with
  | some d, some c => ⟨d, c⟩
  | _, _ => m

/-- The end of the month of a date. -/
def lastDay (h : Host) (date format output uppercase : Value) : Result := do
  let f ← formatOr format defaultDateFormat
  let o ← formatOr output f
  let (m, offset) ← momentOr h date f
  writeMoment (endOfMonth m, offset) o uppercase

/-- The functions of this file. -/
def dates : List Builtin :=
  [⟨⟨"getdate", [], [.text defaultNowFormat, .null, .null, .int 1, .null], false, false⟩,
    fun h _ args => match args with
      | [format, _, period, amount, uppercase] => presentMoment h format period amount uppercase
      | _ => .ok .null⟩,
   ⟨⟨"dateformat", [], [.null, .text defaultDateFormat, .null, .null, .null, .int 1, .null], false,
     false⟩,
    fun h _ args => match args with
      | [date, format, output, _, period, amount, uppercase] =>
        restateDate h date format output period amount uppercase
      | _ => .ok .null⟩,
   ⟨⟨"lastday", [], [.null, .text defaultDateFormat, .null, .null, .null], false, false⟩,
    fun h _ args => match args with
      | [date, format, output, _, uppercase] => lastDay h date format output uppercase
      | _ => .ok .null⟩]

end Sigil.Library
