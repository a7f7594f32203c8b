/-
# Code points

A text consists of characters, whose code points are no surrogates.  A sequence of code points that
a host hands over need not be a text: UTF-8 has no form for a surrogate, and writing one is a fault
that tells of the first run of them.
-/
import Sigil.Bytes.Basic
import Sigil.Decimal.Notation
import Sigil.Fault
import Sigil.Text.Hex

namespace Sigil

/-- A code point. -/
abbrev CodePoint := Fin 0x110000

namespace CodePoint

/-- The code point of a character. -/
def ofChar (c : Char) : CodePoint :=
  ⟨c.toNat, by
    have h := c.valid
    simp only [UInt32.isValidChar, Nat.isValidChar] at h
    simp only [Char.toNat]
    omega⟩

/-- The code point stands for no character. -/
def isSurrogate (p : CodePoint) : Bool := 0xD800 ≤ p.val && p.val ≤ 0xDFFF

/-- The character of a code point. -/
def char? (p : CodePoint) : Option Char :=
  if p.isSurrogate then none else some (Char.ofNat p.val)

end CodePoint

/-- The code points of a text. -/
def codePoints (s : String) : List CodePoint := s.toList.map CodePoint.ofChar

namespace Bytes

/-- The fault of a surrogate at a position that is followed by `more` others. -/
def surrogateFault (position : Nat) (p : CodePoint) (more : Nat) : Fault :=
  let place := if more == 0 then
      "character '\\u" ++ String.ofList (Text.hexPadded 4 p.val) ++ "' in position "
        ++ Decimal.ofInt position
    else "characters in position " ++ Decimal.ofInt position ++ "-"
      ++ Decimal.ofInt (position + more : Nat)
  ⟨.encoding, some ("'utf-8' codec can't encode " ++ place ++ ": surrogates not allowed")⟩

/-- The bytes in UTF-8 of code points from a position on. -/
def utf8From (position : Nat) : List CodePoint → Except Fault (List UInt8)
  | [] => .ok []
  | p :: rest =>
    match p.char? with
    | some c => (utf8From (position + 1) rest).map (String.utf8EncodeChar c ++ ·)
    | none => .error (surrogateFault position p (rest.takeWhile CodePoint.isSurrogate).length)

/-- The bytes of code points in UTF-8. -/
def ofCodePoints (s : List CodePoint) : Except Fault (List UInt8) := utf8From 0 s

end Bytes

end Sigil
