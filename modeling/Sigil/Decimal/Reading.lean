/-
# Reading numerals

Integers and floats as people write them: blanks around, a sign, digits of any script, single low
lines between digits.  A float may have a point, an exponent, or be one of the words for infinity
and for what is not a number.
-/
import Sigil.Decimal.Notation
import Sigil.Text.Blank
import Sigil.Text.Casing
import Sigil.Text.Digit
import Sigil.Text.Quoted

namespace Sigil.Decimal

open Sigil.Text

/-- The greatest number of digits of an integer that is read or written. -/
def digitLimit : Nat := 4300

/-- Why a text is no numeral. -/
inductive NumeralError where
  /-- The text is no integer. -/
  | notInteger (text : String)
  /-- The text is no float. -/
  | notFloat (text : String)
  /-- The integer has more digits than are read. -/
  | tooManyDigits (count : Nat)
  /-- The integer has more digits than are written. -/
  | tooLong
deriving Repr, DecidableEq

/-- The wording of a numeral error. -/
def NumeralError.message : NumeralError → String
  | notInteger t => s!"invalid literal for int() with base 10: {quoted t}"
  | notFloat t => s!"could not convert string to float: {quoted t}"
  | tooManyDigits n =>
    s!"Exceeds the limit ({digitLimit} digits) for integer string conversion: "
      ++ s!"value has {n} digits; use sys.set_int_max_str_digits() to increase the limit"
  | tooLong =>
    s!"Exceeds the limit ({digitLimit} digits) for integer string conversion; "
      ++ "use sys.set_int_max_str_digits() to increase the limit"

/-- White space that may surround a numeral: the information separators may not. -/
def isNumeralBlank (c : Char) : Bool := isBlank c && !(0x1C ≤ c.toNat && c.toNat ≤ 0x1F)

/-- A text without the blanks around a numeral. -/
def stripNumeral (s : List Char) : List Char :=
  ((s.dropWhile isNumeralBlank).reverse.dropWhile isNumeralBlank).reverse

/-- The sign before a numeral, minus being `true`, and what follows it. -/
def takeSign : List Char → Bool × List Char
  | '-' :: rest => (true, rest)
  | '+' :: rest => (false, rest)
  | s => (false, s)

/-- The value of a run of digits of any script. -/
def digitsValue (s : List Char) : Nat :=
  s.foldl (fun n c => 10 * n + (digitValue? c).getD 0) 0

/-- Every low line has a digit on both sides; `afterDigit` tells of the character before. -/
def separatesDigits : Bool → List Char → Bool
  | _, [] => true
  | afterDigit, '_' :: rest =>
    afterDigit && (match rest with | [] => false | c :: _ => isDigit c)
      && separatesDigits false rest
  | _, c :: rest => separatesDigits (isDigit c) rest

/-- The integer that a text reads as. -/
def readInt (text : String) : Except NumeralError Int :=
  let (negative, body) := takeSign (stripNumeral text.toList)
  let run := body.takeWhile fun c => isDigit c || c == '_'
  let digits := run.filter isDigit
  if run.isEmpty || !separatesDigits false run then .error (.notInteger text)
  else if digitLimit < digits.length then .error (.tooManyDigits digits.length)
  else if run.length < body.length then .error (.notInteger text)
  else .ok (if negative then -(digitsValue digits : Int) else digitsValue digits)

/-- An integer of ASCII or other digits with an optional sign, and nothing else. -/
def isPlainInteger (s : List Char) : Bool :=
  let (_, body) := takeSign s
  !body.isEmpty && body.all isDigit

/-- The float nearest to `digits * 10 ^ exponent`.  Values far outside the range of floats are
recognised by their order of magnitude. -/
def nearestFloat (negative : Bool) (digits : Nat) (exponent : Int) : Float :=
  let lead := exponent + (natDigits digits).length
  let x : Float :=
    if digits == 0 || lead < -400 then 0
    else if 400 < lead then Float.ofBits 0x7FF0000000000000
    else Float.ofScientific digits (decide (exponent < 0)) exponent.natAbs
  if negative then -x else x

/-- The exponent after the digits of a float: nothing, or a mark, a sign and digits. -/
def readExponent : List Char → Option Int
  | [] => some 0
  | c :: rest =>
    let (negative, digits) := takeSign rest
    if (c == 'e' || c == 'E') && !digits.isEmpty && digits.all isDigit then
      some (if negative then -(digitsValue digits : Int) else digitsValue digits)
    else none

/-- The digits, point and exponent of a float without sign. -/
def readUnsignedFloat (negative : Bool) (s : List Char) : Option Float :=
  let whole := s.takeWhile isDigit
  let (fraction, rest) := match s.dropWhile isDigit with
    | '.' :: t => (t.takeWhile isDigit, t.dropWhile isDigit)
    | t => ([], t)
  if whole.isEmpty && fraction.isEmpty then none
  else (readExponent rest).map fun e =>
    nearestFloat negative (digitsValue (whole ++ fraction)) (e - fraction.length)

/-- The float that a text reads as, if it reads as one. -/
def readFloat? (text : String) : Option Float :=
  let s := stripNumeral text.toList
  if !separatesDigits false s then none
  else
    let (negative, body) := takeSign (s.filter (· != '_'))
    let word := String.ofList (lower body)
    if word == "inf" || word == "infinity" then
      some (Float.ofBits (if negative then 0xFFF0000000000000 else 0x7FF0000000000000))
    else if word == "nan" then some (Float.ofBits 0x7FF8000000000000)
    else readUnsignedFloat negative body

/-- The float that a text reads as. -/
def readFloat (text : String) : Except NumeralError Float :=
  match readFloat? text with
  | some x => .ok x
  | none => .error (.notFloat text)

/-- The text of an integer that has no more digits than are written. -/
def writeInt (n : Int) : Except NumeralError String :=
  if n.natAbs < Nat.pow 10 digitLimit then .ok (ofInt n) else .error .tooLong

end Sigil.Decimal
