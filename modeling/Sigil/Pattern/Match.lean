/-
# Matching

A pattern is matched at a place of a text by trying its ways in order, each followed by what is to
be matched after it, until one of them leads to the end.  A repetition stops where its last round
took no characters.
-/
import Sigil.Pattern.Parse
import Sigil.Text.Blank
import Sigil.Text.Folding

namespace Sigil.Pattern

/-- What a pattern is matched with regard to. -/
structure Flags where
  /-- Case does not count. -/
  ignoreCase : Bool
  /-- Anchors hold at lines. -/
  lines : Bool
  /-- Any character may be a line break. -/
  dotAll : Bool
deriving Repr, DecidableEq

/-- A place in a text. -/
structure Place where
  /-- The number of characters before it. -/
  position : Nat
  /-- The characters before it, the last one first. -/
  before : List Char
  /-- The characters after it. -/
  after : List Char

/-- The place after the next character. -/
def Place.next (p : Place) : Place :=
  match p.after with
  | [] => p
  | c :: rest => ⟨p.position + 1, c :: p.before, rest⟩

/-- The place some characters further on. -/
def Place.advance (p : Place) (n : Nat) : Place := n.repeat Place.next p

/-- The place some characters back, if there are so many. -/
def Place.back? (p : Place) (n : Nat) : Option Place :=
  if n ≤ p.position then
    some ⟨p.position - n, p.before.drop n, (p.before.take n).reverse ++ p.after⟩
  else none

/-- A place that is reached, with the texts of the groups so far. -/
structure Reached where
  /-- The place. -/
  place : Place
  /-- The texts of the groups, the latest first. -/
  texts : List (Nat × List Char)

/-- The character belongs to a class. -/
def CharClass.holds (c : Char) : CharClass → Bool
  | .digit => Text.isDigit c
  | .space => Text.isBlank c
  | .word => Text.isWord c

/-- The code point is that of a character. -/
def isCode (n : Nat) (c : Char) : Bool := c.toNat == n

/-- The code point is that of a character or, where case does not count, of another form of it. -/
def sameCode (f : Flags) (n : Nat) (c : Char) : Bool :=
  isCode n c || (f.ignoreCase && n.isValidChar && Text.sameLetter (Char.ofNat n) c)

/-- The range holds a character or, where case does not count, another form of it. -/
def inRange (f : Flags) (first last : Nat) (c : Char) : Bool :=
  (first ≤ c.toNat && c.toNat ≤ last)
    || (f.ignoreCase && (Text.lettersLike c).any fun n => first ≤ n && n ≤ last)

/-- An item of a set holds a character. -/
def SetItem.holds (f : Flags) (c : Char) : SetItem → Bool
  | .single n => sameCode f n c
  | .range first last => inRange f first last c
  | .category negated k => k.holds c != negated

/-- The text ends here or before a last line break. -/
def atLastLine : List Char → Bool
  | [] => true
  | ['\n'] => true
  | _ => false

/-- A word character stands at the start of a text. -/
def startsWord (s : List Char) : Bool := (s.head?.map Text.isWord).getD false

/-- The condition holds at a place. -/
def Anchor.holds (f : Flags) (p : Place) : Anchor → Bool
  | .lineStart => p.before.isEmpty || (f.lines && p.before.head? == some '\n')
  | .lineEnd => atLastLine p.after || (f.lines && p.after.head? == some '\n')
  | .textStart => p.before.isEmpty
  | .textEnd => p.after.isEmpty
  | .wordEdge => startsWord p.before != startsWord p.after
  | .noWordEdge => (!p.before.isEmpty || !p.after.isEmpty)
    && startsWord p.before == startsWord p.after

/-- A way on from a place that is reached. -/
abbrev Onward := Reached → Option Reached

/-- A character that fits is taken. -/
def takeOne (fits : Char → Bool) (r : Reached) (onward : Onward) : Option Reached :=
  match r.place.after with
  | c :: _ => if fits c then onward { r with place := r.place.next } else none
  | [] => none

/-- The text fits at a place, character by character. -/
def textFits (f : Flags) : List Char → List Char → Bool
  | [], _ => true
  | _ :: _, [] => false
  | c :: text, d :: s =>
    (c == d || (f.ignoreCase && Text.lowerChar c == Text.lowerChar d)) && textFits f text s

/-- Rounds of a repetition: `count` of them are behind, and the last one that was not required began
at `last`. -/
def rounds (least : Nat) (most : Option Nat) (greed : Greed)
    (body : Reached → Onward → Option Reached)
    (onward : Onward) : Nat → Nat → Option Nat → Onward
  | 0, _, _, _ => none
  | fuel + 1, count, last, r =>
    let again (last : Option Nat) : Option Reached :=
      body r (rounds least most greed body onward fuel (count + 1) last)
    let mayGoOn := most.all (count < ·) && last != some r.place.position
    if count < least then again last
    else match greed with
      | .lazy => (onward r).or (if mayGoOn then again (some r.place.position) else none)
      | _ => (if mayGoOn then again (some r.place.position) else none).or (onward r)

/-- A body that matches in one way only. -/
def firstWay (body : Reached → Onward → Option Reached) (r : Reached) (onward : Onward) :
    Option Reached :=
  (body r some).bind onward

/-- The first way to match a pattern from a place such that the way on leads to the end. -/
def run (f : Flags) : Pattern → Reached → Onward → Option Reached
  | .empty, r, onward => onward r
  | .literal n, r, onward => takeOne (sameCode f n) r onward
  | .any, r, onward => takeOne (fun c => f.dotAll || c != '\n') r onward
  | .set negated items, r, onward =>
    takeOne (fun c => items.any (·.holds f c) != negated) r onward
  | .anchor a, r, onward => if a.holds f r.place then onward r else none
  | .sequence p q, r, onward => run f p r fun s => run f q s onward
  | .either p q, r, onward => (run f p r onward).or (run f q r onward)
  | .group none p, r, onward => run f p r onward
  | .group (some n) p, r, onward =>
    run f p r fun s =>
      let text := r.place.after.take (s.place.position - r.place.position)
      onward { s with texts := (n, text) :: s.texts }
  | .reference n, r, onward =>
    match r.texts.lookup n with
    | some text =>
      if textFits f text r.place.after then
        onward { r with place := r.place.advance text.length }
      else none
    | none => none
  | .repeated least most greed p, r, onward =>
    let body := if greed == .possessive then firstWay (run f p) else run f p
    let fuel := least + r.place.after.length + 2
    if greed == .possessive then
      (rounds least most greed body some fuel 0 none r).bind onward
    else rounds least most greed body onward fuel 0 none r
  | .ahead negated p, r, onward =>
    match run f p r some with
    | some s => if negated then none else onward { r with texts := s.texts }
    | none => if negated then onward r else none
  | .behind negated width p, r, onward =>
    match (r.place.back? width).bind fun start => run f p { r with place := start } some with
    | some s => if negated then none else onward { r with texts := s.texts }
    | none => if negated then onward r else none
  | .atomic p, r, onward => firstWay (run f p) r onward

/-- The match of a pattern at a place; if `mustAdvance`, one that takes a character. -/
def matchAt (f : Flags) (p : Pattern) (mustAdvance : Bool) (place : Place) : Option Reached :=
  run f p ⟨place, []⟩ fun r =>
    if mustAdvance && r.place.position == place.position then none else some r

/-- A match that is found: the characters skipped before it, where it begins and where it ends. -/
structure Found where
  /-- The characters skipped. -/
  skipped : List Char
  /-- The place of its start. -/
  start : Place
  /-- The place of its end, with the texts of its groups. -/
  finish : Reached

/-- The first match from a place on; only at that place does `mustAdvance` count. -/
def searchFrom (f : Flags) (p : Pattern) (mustAdvance : Bool) (position : Nat)
    (before : List Char) : List Char → Option Found
  | [] => (matchAt f p mustAdvance ⟨position, before, []⟩).map fun r =>
      ⟨[], ⟨position, before, []⟩, r⟩
  | c :: rest =>
    match matchAt f p mustAdvance ⟨position, before, c :: rest⟩ with
    | some r => some ⟨[], ⟨position, before, c :: rest⟩, r⟩
    | none => (searchFrom f p false (position + 1) (c :: before) rest).map fun m =>
        { m with skipped := c :: m.skipped }

/-- The first match from a place on. -/
def search (f : Flags) (p : Pattern) (mustAdvance : Bool) (place : Place) : Option Found :=
  searchFrom f p mustAdvance place.position place.before place.after

end Sigil.Pattern
