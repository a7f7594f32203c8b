/-
# Comparison without regard to case

Two characters are the same without regard to case if they have the same lower case, or if their
lower cases are written forms of one letter.
-/
import Sigil.Text.Casing

namespace Sigil.Text

/-- The lower-case letters that have more than one written form, with all their forms. -/
def letterForms : List (List Nat) :=
  [[0x69, 0x131], [0x73, 0x17F], [0xB5, 0x3BC], [0x345, 0x3B9, 0x1FBE], [0x390, 0x1FD3],
   [0x3B0, 0x1FE3], [0x3B2, 0x3D0], [0x3B5, 0x3F5], [0x3B8, 0x3D1], [0x3BA, 0x3F0],
   [0x3C0, 0x3D6], [0x3C1, 0x3F1], [0x3C2, 0x3C3], [0x3C6, 0x3D5], [0x432, 0x1C80],
   [0x434, 0x1C81], [0x43E, 0x1C82], [0x441, 0x1C83], [0x442, 0x1C84, 0x1C85], [0x44A, 0x1C86],
   [0x463, 0x1C87], [0x1C88, 0xA64B], [0x1E61, 0x1E9B], [0xFB05, 0xFB06]]

/-- The characters are the same without regard to case. -/
def sameLetter (a b : Char) : Bool :=
  let x := lowerChar a
  let y := lowerChar b
  x == y || letterForms.any fun forms => forms.contains x.toNat && forms.contains y.toNat

/-- The capitals whose lower case is a given code point. -/
def capitalsOf (n : Nat) : List Nat :=
  let ofRun (run : CaseRun) : Option Nat :=
    let (first, last, step, shift) := run
    let m := ((n : Int) - shift).toNat
    if first ≤ m && m ≤ last && (m - first) % step == 0 then some m else none
  (if n == 0x69 then [0x130] else []) ++ lowerRuns.filterMap ofRun

/-- The code points of the characters that are the same as one without regard to case. -/
def lettersLike (c : Char) : List Nat :=
  let n := (lowerChar c).toNat
  let forms := ((letterForms.find? (·.contains n)).getD [n])
  forms.flatMap fun m => m :: capitalsOf m

end Sigil.Text
