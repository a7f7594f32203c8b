/-
# Patterns

Regular expressions as trees: characters, sets of characters, anchors, groups with back-references,
repetitions of three styles, and conditions on what follows or precedes.
-/

namespace Sigil.Pattern

/-- A class of characters that has an escape of its own. -/
inductive CharClass where
  /-- Decimal digits. -/
  | digit
  /-- White space. -/
  | space
  /-- Letters, numbers and the low line. -/
  | word
deriving Repr, DecidableEq

/-- An item of a set of characters. -/
inductive SetItem where
  /-- A character by its code point. -/
  | single (n : Nat)
  /-- The characters of a range of code points. -/
  | range (first last : Nat)
  /-- The characters of a class, or all others. -/
  | category (negated : Bool) (k : CharClass)
deriving Repr, DecidableEq

/-- A condition on a place in a text. -/
inductive Anchor where
  /-- The start of the text, or of a line if lines count. -/
  | lineStart
  /-- The end of the text or before a last line break, or the end of a line if lines count. -/
  | lineEnd
  /-- The start of the text. -/
  | textStart
  /-- The end of the text. -/
  | textEnd
  /-- Between a word character and another. -/
  | wordEdge
  /-- Not between a word character and another. -/
  | noWordEdge
deriving Repr, DecidableEq

/-- How a repetition chooses among the numbers of times that fit. -/
inductive Greed where
  /-- As often as possible. -/
  | greedy
  /-- As seldom as possible. -/
  | lazy
  /-- As often as possible, without ever giving back. -/
  | possessive
deriving Repr, DecidableEq

end Sigil.Pattern

namespace Sigil

open Pattern in
/-- A pattern. -/
inductive Pattern where
  /-- The empty text. -/
  | empty
  /-- A character, by its code point. -/
  | literal (n : Nat)
  /-- Any character; a line break only if line breaks count as characters. -/
  | any
  /-- A character of a set, or any other. -/
  | set (negated : Bool) (items : List SetItem)
  /-- A condition on the place. -/
  | anchor (a : Anchor)
  /-- One pattern after the other. -/
  | sequence (p q : Pattern)
  /-- The first pattern, or else the second. -/
  | either (p q : Pattern)
  /-- A group; the text of a numbered group is kept. -/
  | group (number : Option Nat) (p : Pattern)
  /-- The text that a group has matched. -/
  | reference (number : Nat)
  /-- A number of repetitions. -/
  | repeated (least : Nat) (most : Option Nat) (greed : Greed) (p : Pattern)
  /-- A condition on what follows. -/
  | ahead (negated : Bool) (p : Pattern)
  /-- A condition on what precedes, which has a fixed width. -/
  | behind (negated : Bool) (width : Nat) (p : Pattern)
  /-- The first way to match, and no other. -/
  | atomic (p : Pattern)
deriving Repr, DecidableEq

namespace Pattern

/-- The patterns of a list one after the other. -/
def ofList : List Pattern → Pattern
  | [] => .empty
  | [p] => p
  | p :: rest => .sequence p (ofList rest)

/-- The patterns of a list as alternatives. -/
def ofAlternatives : List Pattern → Pattern
  | [] => .empty
  | [p] => p
  | p :: rest => .either p (ofAlternatives rest)

/-- The width of all texts that a pattern matches, if there is only one; `known` gives those of the
groups. -/
def width? (known : Nat → Option Nat) : Pattern → Option Nat
  | .empty => some 0
  | .literal _ => some 1
  | .any => some 1
  | .set _ _ => some 1
  | .anchor _ => some 0
  | .sequence p q => do
    let m ← width? known p
    let n ← width? known q
    pure (m + n)
  | .either p q => do
    let m ← width? known p
    let n ← width? known q
    if m == n then some m else none
  | .group _ p => width? known p
  | .reference n => known n
  | .repeated least most _ p =>
    if most == some 0 then some 0
    else do
      let n ← width? known p
      if n == 0 then some 0
      else if most == some least then some (least * n) else none
  | .ahead _ _ => some 0
  | .behind _ _ _ => some 0
  | .atomic p => width? known p

/-- The pattern holds for a place and takes no characters by its form. -/
def isAnchor : Pattern → Bool
  | .anchor _ => true
  | _ => false

/-- The pattern is a repetition. -/
def isRepeated : Pattern → Bool
  | .repeated .. => true
  | _ => false

end Pattern

end Sigil
