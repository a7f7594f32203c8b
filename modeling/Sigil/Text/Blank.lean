/-
# White space

The characters that surround a text without belonging to it: the white space of the Unicode
standard together with the four information separators.
-/
import Sigil.Text.Range

namespace Sigil.Text

/-- The ranges of white space. -/
def blankRanges : List (Nat × Nat) :=
  [(0x9, 0xD), (0x1C, 0x20), (0x85, 0x85), (0xA0, 0xA0), (0x1680, 0x1680), (0x2000, 0x200A),
   (0x2028, 0x2029), (0x202F, 0x202F), (0x205F, 0x205F), (0x3000, 0x3000)]

/-- White space. -/
def isBlank (c : Char) : Bool := inRanges blankRanges c.toNat

/-- A text without the white space before it. -/
def stripLeft (s : List Char) : List Char := s.dropWhile isBlank

/-- A text without the white space after it. -/
def stripRight (s : List Char) : List Char := (s.reverse.dropWhile isBlank).reverse

/-- A text without the white space around it. -/
def strip (s : List Char) : List Char := stripRight (stripLeft s)

end Sigil.Text
