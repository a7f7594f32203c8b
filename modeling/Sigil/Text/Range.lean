/-
# Ranges of code points

A character class of the Unicode standard is held as a list of closed ranges of code points in
ascending order; membership is a look-up in that list.  All tables of this library follow version
14 of the standard.
-/

namespace Sigil.Text

/-- Membership of a code point in a list of closed ranges. -/
def inRanges (ranges : List (Nat × Nat)) (n : Nat) : Bool :=
  ranges.any fun r => r.1 ≤ n && n ≤ r.2

/-- The ranges are non-empty, ascending and apart. -/
def Ascending : List (Nat × Nat) → Prop
  | [] => True
  | [r] => r.1 ≤ r.2
  | r :: s :: rest => r.1 ≤ r.2 ∧ r.2 < s.1 ∧ Ascending (s :: rest)

end Sigil.Text
