/-
# Character references

The characters with a meaning in HTML written as character references, and all references turned
back: those by number in either base, and those by name, where a few old names need no semicolon.
-/
import Sigil.Decimal.Reading
import Sigil.Html.Names
import Sigil.Text.Hex
import Sigil.Value.Show

namespace Sigil.Html

/-- The reference for a character that has a meaning. -/
def reference? : Char → Option String
  | '&' => some "&amp;"
  | '<' => some "&lt;"
  | '>' => some "&gt;"
  | '"' => some "&quot;"
  | '\'' => some "&#39;"
  | _ => none

/-- The text with references for the characters that have a meaning. -/
def escape (s : List Char) : List Char := s.flatMap fun c =>
  match reference? c with
  | some r => r.toList
  | none => [c]

/-- A character reference. -/
inductive Reference where
  /-- A code point in decimal digits. -/
  | decimal (digits : List Char)
  /-- A code point in hexadecimal digits. -/
  | hexadecimal (digits : List Char)
  /-- A name, with or without a semicolon. -/
  | named (name : List Char) (closed : Bool)
deriving Repr, DecidableEq

/-- The character cannot stand in a name. -/
def endsName (c : Char) : Bool :=
  c == '\t' || c == '\n' || c == '\x0c' || c == ' ' || c == '<' || c == '&' || c == '#' || c == ';'

/-- The length of a semicolon at the start of a text. -/
def semicolon (s : List Char) : Nat := if s.head? == some ';' then 1 else 0

/-- The character is a decimal digit. -/
def isDecimal (c : Char) : Bool := '0' ≤ c && c ≤ '9'

/-- A reference by number behind `#`, and its length. -/
def numberReference? (s : List Char) : Option (Reference × Nat) :=
  let digits := s.takeWhile isDecimal
  if !digits.isEmpty then
    some (.decimal digits, digits.length + semicolon (s.drop digits.length))
  else match s with
    | c :: rest =>
      let digits := rest.takeWhile fun d => (Text.hexValue? d).isSome
      if (c == 'x' || c == 'X') && !digits.isEmpty then
        some (.hexadecimal digits, digits.length + 1 + semicolon (rest.drop digits.length))
      else none
    | [] => none

/-- The reference behind an ampersand, and its length; a name has at most thirty-two characters. -/
def referenceAt? (s : List Char) : Option (Reference × Nat) :=
  match s with
  | '#' :: rest => (numberReference? rest).map fun (r, n) => (r, n + 1)
  | s =>
    let name := (s.take 32).takeWhile fun c => !endsName c
    if name.isEmpty then none
    else
      let closing := semicolon (s.drop name.length)
      some (.named name (closing == 1), name.length + closing)

/-- The characters that the numbers from 128 to 159 stand for, in order. -/
def windowsCharacters : List Nat :=
  [0x20AC, 0x81, 0x201A, 0x192, 0x201E, 0x2026, 0x2020, 0x2021, 0x2C6, 0x2030, 0x160, 0x2039, 0x152,
   0x8D, 0x17D, 0x8F, 0x90, 0x2018, 0x2019, 0x201C, 0x201D, 0x2022, 0x2013, 0x2014, 0x2DC, 0x2122,
   0x161, 0x203A, 0x153, 0x9D, 0x17E, 0x178]

/-- The number stands for nothing: a control character or a code point that is no character. -/
def standsForNothing (n : Nat) : Bool :=
  (0x1 ≤ n && n ≤ 0x8) || n == 0xB || (0xE ≤ n && n ≤ 0x1F) || n == 0x7F
    || (0xFDD0 ≤ n && n ≤ 0xFDEF) || 0xFFFE ≤ n % 0x10000

/-- The text that a number stands for. -/
def numbered (n : Nat) : List Char :=
  if n == 0 || (0xD800 ≤ n && n ≤ 0xDFFF) || 0x10FFFF < n then ['\uFFFD']
  else if 0x80 ≤ n && n ≤ 0x9F then [Char.ofNat ((windowsCharacters[n - 0x80]?).getD n)]
  else if standsForNothing n then []
  else [Char.ofNat n]

/-- The text that a name stands for. -/
def namedText? (name : List Char) : Option (List Char) :=
  (namedCharacters.lookup (String.ofList name)).map fun ns => ns.map Char.ofNat

/-- The length of the longest start of a name, at most `n`, that is a name without semicolon. -/
def bareLength? (name : List Char) : Nat → Option Nat
  | 0 => none
  | n + 1 =>
    if bareNames.contains (String.ofList (name.take (n + 1))) then some (n + 1)
    else bareLength? name n

/-- The text that a name stands for, which may be that of its longest start that is a name. -/
def named (name : List Char) (closed : Bool) : List Char :=
  let closing := if closed then [';'] else []
  match if closed then namedText? name else none with
  | some text => text
  | none =>
    match bareLength? name name.length with
    | some n => (namedText? (name.take n)).getD [] ++ name.drop n ++ closing
    | none => '&' :: name ++ closing

/-- The text that a reference stands for. -/
def Reference.text : Reference → Except Fault (List Char)
  | decimal digits =>
    match Decimal.readInt (String.ofList digits) with
    | .ok n => .ok (numbered n.toNat)
    | .error e => .error e.fault
  | hexadecimal digits => .ok (numbered ((Text.hexToNat? digits).getD 0))
  | Reference.named name closed => .ok (Html.named name closed)

/-- The text with its references turned back, where `skip` characters belong to one already
read. -/
def unescapeFrom : Nat → List Char → Except Fault (List Char)
  | _, [] => .ok []
  | skip + 1, _ :: rest => unescapeFrom skip rest
  | 0, c :: rest =>
    match if c == '&' then referenceAt? rest else none with
    | some (r, n) => do
      let text ← r.text
      let more ← unescapeFrom n rest
      pure (text ++ more)
    | none => (unescapeFrom 0 rest).map (c :: ·)

/-- The text with its references turned back. -/
def unescape (s : List Char) : Except Fault (List Char) := unescapeFrom 0 s

end Sigil.Html
