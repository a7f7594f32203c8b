/-
# Reading JSON

The value of a JSON text.  Besides the standard's grammar the reader accepts the words for infinity
and for what is not a number.  What is wrong with a text is reported with the line, the column and
the offset at which reading stopped.
-/
import Sigil.Decimal.Reading
import Sigil.Fault
import Sigil.Value.Key

namespace Sigil.Json

open Sigil.Text Sigil.Decimal

/-- What can be wrong at a position of a text. -/
inductive Problem where
  /-- No value begins here. -/
  | expectingValue
  /-- No key of an object begins here. -/
  | expectingName
  /-- The colon after a key is missing. -/
  | expectingColon
  /-- Neither a comma nor the end of the sequence. -/
  | expectingComma
  /-- The string that begins here does not end. -/
  | unterminated
  /-- A control character inside a string. -/
  | controlCharacter
  /-- An escape with an unknown letter. -/
  | badEscape
  /-- An escape without four hexadecimal digits. -/
  | badCodeEscape
  /-- Text after the value. -/
  | extraData
  /-- A byte order mark at the start. -/
  | byteOrderMark
deriving Repr, DecidableEq

/-- The wording of a problem. -/
def Problem.message : Problem → String
  | expectingValue => "Expecting value"
  | expectingName => "Expecting property name enclosed in double quotes"
  | expectingColon => "Expecting ':' delimiter"
  | expectingComma => "Expecting ',' delimiter"
  | unterminated => "Unterminated string starting at"
  | controlCharacter => "Invalid control character at"
  | badEscape => "Invalid \\escape"
  | badCodeEscape => "Invalid \\uXXXX escape"
  | extraData => "Extra data"
  | byteOrderMark => "Unexpected UTF-8 BOM (decode using utf-8-sig)"

/-- Why a text is not read. -/
inductive ReadError where
  /-- The text is no JSON: the problem and its offset. -/
  | malformed (problem : Problem) (offset : Nat)
  /-- An integer is too long. -/
  | numeral (error : NumeralError)
deriving Repr, DecidableEq

/-- The line, the column and the offset of a position, lines and columns counted from 1. -/
def describePosition (text : List Char) (offset : Nat) : String :=
  let before := text.take offset
  let line := before.count '\n' + 1
  let column := (before.reverse.takeWhile (· != '\n')).length + 1
  let shown (n : Nat) : String := String.ofList (natDigits n)
  "line " ++ shown line ++ " column " ++ shown column ++ " (char " ++ shown offset ++ ")"

/-- The wording of a reading error. -/
def ReadError.message (text : List Char) : ReadError → String
  | malformed p offset => p.message ++ ": " ++ describePosition text offset
  | numeral e => e.message

/-- The fault of a reading error. -/
def ReadError.fault (text : List Char) : ReadError → Fault
  | malformed p offset => Fault.value ("invalid JSON: " ++ (malformed p offset).message text)
  | numeral e => Fault.value e.message

/-- A position in a text: its offset and what follows it. -/
structure Cursor where
  /-- The offset from the start. -/
  offset : Nat
  /-- The text from here on. -/
  rest : List Char

/-- White space of JSON. -/
def isSpace (c : Char) : Bool := c == ' ' || c == '\t' || c == '\n' || c == '\r'

/-- The position after white space. -/
def Cursor.skipSpace (c : Cursor) : Cursor :=
  ⟨c.offset + (c.rest.takeWhile isSpace).length, c.rest.dropWhile isSpace⟩

/-- The position `n` characters on. -/
def Cursor.advance (c : Cursor) (n : Nat) : Cursor := ⟨c.offset + n, c.rest.drop n⟩

/-- A problem at an offset. -/
def problem {α : Type} (p : Problem) (offset : Nat) : Except ReadError α :=
  .error (.malformed p offset)

/-- The character an escape letter stands for. -/
def unescape? : Char → Option Char
  | '"' => some '"'
  | '\\' => some '\\'
  | '/' => some '/'
  | 'b' => some '\x08'
  | 'f' => some '\x0c'
  | 'n' => some '\n'
  | 'r' => some '\r'
  | 't' => some '\t'
  | _ => none

/-- The code unit of four hexadecimal digits; at least one character has to follow them. -/
def codeUnit? (s : List Char) : Option Nat :=
  if s.length < 5 then none else hexToNat? (s.take 4)

/-- The second half of a surrogate pair, where a text goes on with one: a backslash, `u` and four
digits, and something after them. -/
def lowSurrogate? (s : List Char) : Option Nat :=
  match s with
  | '\\' :: 'u' :: rest =>
    if rest.length < 5 then none else hexToNat? (rest.take 4)
  | _ => none

/-- The character of a pair of surrogates. -/
def joinSurrogates (high low : Nat) : Char :=
  Char.ofNat (0x10000 + (high - 0xD800) * 0x400 + (low - 0xDC00))

/-- The character of a code unit; a surrogate that stands alone is no character and becomes the
replacement character. -/
def unitChar (unit : Nat) : Char :=
  if 0xD800 ≤ unit && unit < 0xE000 then '\uFFFD' else Char.ofNat unit

/-- The rest of a string that began at `start`, after its opening quote. -/
def readString (start : Nat) :
    Nat → List Char → Nat → List Char → Except ReadError (String × Cursor)
  | 0, _, _, _ => problem .unterminated start
  | fuel + 1, acc, offset, s =>
    match s with
    | [] => problem .unterminated start
    | '"' :: rest => .ok (String.ofList acc.reverse, ⟨offset + 1, rest⟩)
    | ['\\'] => problem .unterminated start
    | '\\' :: 'u' :: rest =>
      match codeUnit? rest with
      | none => problem .badCodeEscape (offset + 1)
      | some unit =>
        let after := rest.drop 4
        if 0xD800 ≤ unit && unit < 0xDC00 && (after.take 2 == ['\\', 'u']) && 7 ≤ after.length then
          match lowSurrogate? after with
          | none => problem .badCodeEscape (offset + 7)
          | some low =>
            if 0xDC00 ≤ low && low < 0xE000 then
              readString start fuel (joinSurrogates unit low :: acc) (offset + 12) (after.drop 6)
            else readString start fuel (unitChar unit :: acc) (offset + 6) after
        else readString start fuel (unitChar unit :: acc) (offset + 6) after
    | '\\' :: letter :: rest =>
      match unescape? letter with
      | some c => readString start fuel (c :: acc) (offset + 2) rest
      | none => problem .badEscape offset
    | c :: rest =>
      if c.toNat < 0x20 then problem .controlCharacter offset
      else readString start fuel (c :: acc) (offset + 1) rest

/-- The string that begins at the character after a position's quote. -/
def Cursor.string (c : Cursor) : Except ReadError (String × Cursor) :=
  readString c.offset (c.rest.length + 1) [] (c.offset + 1) (c.rest.drop 1)

/-- An ASCII digit. -/
def isAsciiDigit (c : Char) : Bool := '0' ≤ c && c ≤ '9'

/-- The digits of a number before the point: a zero, or digits that do not begin with one. -/
def integerDigits (s : List Char) : List Char :=
  match s with
  | '0' :: _ => ['0']
  | _ => s.takeWhile isAsciiDigit

/-- The point and the digits after it, if there are any. -/
def fractionPart (s : List Char) : List Char :=
  match s with
  | '.' :: rest =>
    let digits := rest.takeWhile isAsciiDigit
    if digits.isEmpty then [] else '.' :: digits
  | _ => []

/-- The exponent, if there is one with digits. -/
def exponentPart (s : List Char) : List Char :=
  match s with
  | mark :: rest =>
    if mark == 'e' || mark == 'E' then
      let (sign, rest) := match rest with
        | '-' :: t => (['-'], t)
        | '+' :: t => (['+'], t)
        | t => ([], t)
      let digits := rest.takeWhile isAsciiDigit
      if digits.isEmpty then [] else mark :: sign ++ digits
    else []
  | [] => []

/-- The number at a position. -/
def Cursor.number (c : Cursor) : Except ReadError (Value × Cursor) :=
  let sign := if c.rest.head? == some '-' then ['-'] else []
  let unsigned := c.rest.drop sign.length
  let whole := integerDigits unsigned
  if whole.isEmpty then problem .expectingValue c.offset
  else
    let fraction := fractionPart (unsigned.drop whole.length)
    let exponent := exponentPart (unsigned.drop (whole.length + fraction.length))
    let text := sign ++ whole ++ fraction ++ exponent
    let after := c.advance text.length
    if fraction.isEmpty && exponent.isEmpty then
      match readInt (String.ofList text) with
      | .ok n => .ok (.int n, after)
      | .error e => .error (.numeral e)
    else .ok (.float ((readFloat? (String.ofList text)).getD 0), after)

/-- The words that are values. -/
def words : List (String × Value) :=
  [("null", .null), ("true", .bool true), ("false", .bool false),
   ("NaN", .float (Float.ofBits 0x7FF8000000000000)),
   ("Infinity", .float (Float.ofBits 0x7FF0000000000000)),
   ("-Infinity", .float (Float.ofBits 0xFFF0000000000000))]

/-- The value of a word at a position. -/
def Cursor.word? (c : Cursor) : Option (Value × Cursor) :=
  words.findSome? fun (word, v) =>
    if word.toList.isPrefixOf c.rest then some (v, c.advance word.length) else none

mutual

/-- The value at a position. -/
def readValue : Nat → Cursor → Except ReadError (Value × Cursor)
  | 0, c => problem .expectingValue c.offset
  | fuel + 1, c =>
    match c.rest with
    | '"' :: _ => do
      let (s, after) ← c.string
      pure (.text s, after)
    | '[' :: _ =>
      let inner := (c.advance 1).skipSpace
      match inner.rest with
      | ']' :: _ => .ok (.list [], inner.advance 1)
      | _ => do
        let (items, after) ← readItems fuel inner
        pure (.list items, after)
    | '\x7b' :: _ =>
      let inner := (c.advance 1).skipSpace
      match inner.rest with
      | '\x7d' :: _ => .ok (.mapping [], inner.advance 1)
      | _ => do
        let (entries, after) ← readEntries fuel inner
        pure (.mapping (Entries.ofPairs entries), after)
    | _ =>
      match c.word? with
      | some found => .ok found
      | none => c.number

/-- The items of an array from a position on, up to its end. -/
def readItems : Nat → Cursor → Except ReadError (List Value × Cursor)
  | 0, c => problem .expectingValue c.offset
  | fuel + 1, c => do
    let (item, after) ← readValue fuel c
    let next := after.skipSpace
    match next.rest with
    | ']' :: _ => pure ([item], next.advance 1)
    | ',' :: _ =>
      let (items, last) ← readItems fuel (next.advance 1).skipSpace
      pure (item :: items, last)
    | _ => problem .expectingComma next.offset

/-- The entries of an object from a position on, up to its end. -/
def readEntries : Nat → Cursor → Except ReadError (Entries × Cursor)
  | 0, c => problem .expectingValue c.offset
  | fuel + 1, c =>
    match c.rest with
    | '"' :: _ => do
      let (name, afterName) ← c.string
      let colon := afterName.skipSpace
      match colon.rest with
      | ':' :: _ =>
        let (value, after) ← readValue fuel (colon.advance 1).skipSpace
        let next := after.skipSpace
        match next.rest with
        | '\x7d' :: _ => pure ([(.text name, value)], next.advance 1)
        | ',' :: _ =>
          let (entries, last) ← readEntries fuel (next.advance 1).skipSpace
          pure ((.text name, value) :: entries, last)
        | _ => problem .expectingComma next.offset
      | _ => problem .expectingColon colon.offset
    | _ => problem .expectingName c.offset

end

/-- The value of a JSON text.  Every second step of the reader passes over a character, so twice the
length of the text bounds the number of nested steps. -/
def parse (text : List Char) : Except ReadError Value :=
  if text.head? == some '\uFEFF' then problem .byteOrderMark 0
  else do
    let (v, after) ← readValue (2 * text.length + 2) (Cursor.skipSpace ⟨0, text⟩)
    let last := after.skipSpace
    if last.rest.isEmpty then pure v else problem .extraData last.offset

/-- The value of a JSON text, with a fault for a text that is none. -/
def read (text : String) : Except Fault Value :=
  (parse text.toList).mapError (·.fault text.toList)

end Sigil.Json
