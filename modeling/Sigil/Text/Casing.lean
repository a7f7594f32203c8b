/-
# Upper and lower case

The full case mappings of a text.  A character may be mapped to several, and one mapping depends
on where the character stands: the capital sigma becomes the final sigma at the end of a word and
the small sigma everywhere else.
-/
import Sigil.Text.CaseTable

namespace Sigil.Text

/-- The code point a run maps a code point to. -/
def CaseRun.image? (run : CaseRun) (n : Nat) : Option Nat :=
  let (first, last, step, shift) := run
  if first ≤ n && n ≤ last && (n - first) % step == 0 then some ((n : Int) + shift).toNat else none

/-- The lower case of a single character, where it is a single character. -/
def lowerChar (c : Char) : Char :=
  if c.toNat < 0x80 then c.toLower
  else if c.toNat == 0x130 then 'i'
  else ((lowerRuns.findSome? (·.image? c.toNat)).map Char.ofNat).getD c

/-- The upper case of a character. -/
def upperChar (c : Char) : List Char :=
  if c.toNat < 0x80 then [c.toUpper]
  else match upperExpansions.find? (·.1 == c.toNat) with
    | some (_, ns) => ns.map Char.ofNat
    | none => [((upperRuns.findSome? (·.image? c.toNat)).map Char.ofNat).getD c]

/-- A character that is skipped when the end of a word is sought. -/
def isCaseIgnorable (c : Char) : Bool := inRanges caseIgnorableRanges c.toNat

/-- A character that has a case. -/
def isCased (c : Char) : Bool := inRanges casedRanges c.toNat

/-- The nearest character of a text that is not skipped has a case. -/
def meetsCased (s : List Char) : Bool :=
  match s.dropWhile isCaseIgnorable with
  | [] => false
  | c :: _ => isCased c

/-- The lower case of a character between the reversed text before it and the text after it. -/
def lowerAt (before : List Char) (c : Char) (after : List Char) : List Char :=
  if c == 'Σ' then [if meetsCased before && !meetsCased after then 'ς' else 'σ']
  else if c == 'İ' then ['i', '\u0307']
  else [lowerChar c]

/-- The lower case of a text that follows the given reversed text. -/
def lowerFrom (before : List Char) : List Char → List Char
  | [] => []
  | c :: after => lowerAt before c after ++ lowerFrom (c :: before) after

/-- The lower case of a text. -/
def lower (s : List Char) : List Char := lowerFrom [] s

/-- The upper case of a text. -/
def upper (s : List Char) : List Char := s.flatMap upperChar

end Sigil.Text
