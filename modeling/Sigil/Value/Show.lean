/-
# Showing values

Two texts of a value: the one that messages show, in which texts are quoted, and the plain one.
They differ for texts, dates and times only.  An integer with too many digits has neither.
-/
import Sigil.Decimal.Reading
import Sigil.Fault
import Sigil.Moment.Iso
import Sigil.Value.Basic

namespace Sigil

/-- The fault that a numeral error amounts to. -/
def Decimal.NumeralError.fault (e : Decimal.NumeralError) : Fault := Fault.value e.message

/-- The text of an integer. -/
def showInt (n : Int) : Except Fault String := (Decimal.writeInt n).mapError (·.fault)

/-- The text of a float without a fraction of zero. -/
def bareFloat (x : Float) : List Char :=
  let s := (Decimal.ofFloat x).toList
  if s.reverse.take 2 == ['0', '.'] then s.dropLast.dropLast else s

/-- The text of a complex number. -/
def showComplex (re im : Float) : String :=
  let imaginary := bareFloat im
  if re.toBits == 0 then String.ofList (imaginary ++ ['j'])
  else
    let signed := if imaginary.head? == some '-' then imaginary else '+' :: imaginary
    String.ofList ('(' :: bareFloat re ++ signed ++ ['j', ')'])

/-- Texts with a separator between them. -/
def joinWith (separator : String) (parts : List String) : String := separator.intercalate parts

/-- The parts of a time that a message shows: trailing zeros from the seconds on are left out. -/
def clockParts (c : Clock) : List Nat :=
  if c.microsecond != 0 then [c.hour, c.minute, c.second, c.microsecond]
  else if c.second != 0 then [c.hour, c.minute, c.second]
  else [c.hour, c.minute]

/-- The text that shows an offset from universal time. -/
def showOffset (microseconds : Int) : String :=
  if microseconds == 0 then "datetime.timezone.utc"
  else "datetime.timezone(" ++ shownSpan microseconds ++ ")"

/-- A name and numbers between parentheses. -/
def showParts (name : String) (parts : List Nat) (more : List String) : String :=
  let shown := parts.map fun (n : Nat) => Decimal.ofInt n
  "datetime." ++ name ++ "(" ++ joinWith ", " (shown ++ more) ++ ")"

namespace Value

mutual

/-- The text that shows a value in messages. -/
def shown : Value → Except Fault String
  | null => .ok "None"
  | bool b => .ok (if b then "True" else "False")
  | int n => showInt n
  | float x => .ok (Decimal.ofFloat x)
  | complex re im => .ok (showComplex re im)
  | text s => .ok (Text.quoted s)
  | bytes b => .ok (Text.quotedBytes b)
  | list items => do
    let parts ← shownItems items
    pure ("[" ++ joinWith ", " parts ++ "]")
  | tuple items => do
    let parts ← shownItems items
    pure (match parts with
      | [part] => "(" ++ part ++ ",)"
      | _ => "(" ++ joinWith ", " parts ++ ")")
  | mapping entries => do
    let parts ← shownEntries entries
    pure ("\x7b" ++ joinWith ", " parts ++ "\x7d")
  | moment m offset =>
    .ok (showParts "datetime" ([m.day.year, m.day.month, m.day.day] ++ clockParts m.clock)
      (offset.toList.map fun o => "tzinfo=" ++ showOffset o))
  | day d => .ok (showParts "date" [d.year, d.month, d.day] [])
  | clock c => .ok (showParts "time" (clockParts c) [])
  | object o => .ok o.text

/-- The texts that show the items of a sequence. -/
def shownItems : List Value → Except Fault (List String)
  | [] => .ok []
  | v :: rest => do
    let part ← shown v
    let parts ← shownItems rest
    pure (part :: parts)

/-- The texts that show the entries of a mapping. -/
def shownEntries : List (Value × Value) → Except Fault (List String)
  | [] => .ok []
  | (k, v) :: rest => do
    let key ← shown k
    let value ← shown v
    let parts ← shownEntries rest
    pure (s!"{key}: {value}" :: parts)

end

/-- The plain text of a value. -/
def plain : Value → Except Fault String
  | text s => .ok s
  | moment m offset => .ok (m.iso " " ++ ((offset.map isoOffset).getD ""))
  | day d => .ok d.iso
  | clock c => .ok c.iso
  | v => v.shown

end Value

/-- The fault of a missing key, whose wording is the key itself. -/
def Fault.missingKey (key : Value) : Fault := ⟨.key, key.shown.toOption⟩

end Sigil
