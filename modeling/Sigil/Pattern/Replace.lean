/-
# Replacing matches

A replacement is a text with references to groups.  The first match, or each match from left to
right, gives way to it; after an empty match the search goes on with a match that is not empty or
begins further on.
-/
import Sigil.Decimal.Reading
import Sigil.Pattern.Match

namespace Sigil.Pattern

/-- A piece of a replacement. -/
inductive ReplacementPiece where
  /-- A character. -/
  | char (c : Char)
  /-- The text of a group. -/
  | group (n : Nat)
deriving Repr, DecidableEq

/-- The group of a number that has to be one of the pattern. -/
def numberedGroup (c : Compiled) (n : Nat) : Except Fault ReplacementPiece :=
  if n ≤ c.groups then .ok (.group n) else .error malformed

/-- The group that a name or a number between angle brackets refers to.  It is taken for a name by
its word characters. -/
def bracketedGroup (c : Compiled) (name : List Char) : Except Fault ReplacementPiece :=
  if isName name then
    match c.names.lookup (String.ofList name) with
    | some n => .ok (.group n)
    | none => .error ⟨.index, none⟩
  else match Decimal.readInt (String.ofList name) with
    | .ok n => if n < 0 then .error malformed else numberedGroup c n.toNat
    | .error _ => .error malformed

/-- A number behind a backslash in a replacement, its first digit being `d`. -/
def replacementNumber (c : Compiled) (d : Char) (rest : List Char) :
    Except Fault (List ReplacementPiece × List Char) := do
  let (l, tail) ← numberEscape d rest
  match l with
  | .atom (.literal n) => pure ([.char (Char.ofNat n)], tail)
  | .reference n => do
    let piece ← numberedGroup c n
    pure ([piece], tail)
  | _ => .error malformed

/-- What stands behind a backslash in a replacement.  A backslash that stands for nothing stays with
the character behind it. -/
def replacementEscape (c : Compiled) (s : List Char) :
    Except Fault (List ReplacementPiece × List Char) :=
  match s with
  | [] => .error malformed
  | 'g' :: '<' :: rest => do
    let (name, tail) ← nameUntil '>' rest
    let piece ← bracketedGroup c name
    pure ([piece], tail)
  | '0' :: rest =>
    let digits := leading isOctal 2 rest
    .ok ([.char (Char.ofNat (digitsIn 8 digits))], rest.drop digits.length)
  | d :: rest =>
    if d.isDigit then replacementNumber c d rest
    else match if d == 'b' then some 8 else escapeLetter? d with
      | some n => .ok ([.char (Char.ofNat n)], rest)
      | none => if d.isAlpha then .error malformed else .ok ([.char '\\', .char d], rest)

/-- The pieces of a replacement, where `skip` characters belong to one already read. -/
def replacementFrom (c : Compiled) : Nat → List Char → Except Fault (List ReplacementPiece)
  | _, [] => .ok []
  | skip + 1, _ :: rest => replacementFrom c skip rest
  | 0, '\\' :: rest => do
    let (pieces, tail) ← replacementEscape c rest
    let more ← replacementFrom c (rest.length - tail.length) rest
    pure (pieces ++ more)
  | 0, d :: rest => do
    let more ← replacementFrom c 0 rest
    pure (.char d :: more)

/-- The text of a piece for a match. -/
def ReplacementPiece.text (m : Found) : ReplacementPiece → List Char
  | char c => [c]
  | group n =>
    if n == 0 then m.start.after.take (m.finish.place.position - m.start.position)
    else (m.finish.texts.lookup n).getD []

/-- The text from a place on with its matches replaced, at most `fuel` of them. -/
def replaceFrom (f : Flags) (p : Pattern) (pieces : List ReplacementPiece) :
    Nat → Bool → Place → List Char
  | 0, _, place => place.after
  | fuel + 1, mustAdvance, place =>
    match search f p mustAdvance place with
    | none => place.after
    | some m =>
      m.skipped ++ pieces.flatMap (·.text m)
        ++ replaceFrom f p pieces fuel (m.finish.place.position == m.start.position) m.finish.place

/-- The text with the first match of a pattern or all of its matches replaced. -/
def replace (f : Flags) (everywhere : Bool) (pattern replacement s : List Char) :
    Except Fault (List Char) := do
  let c ← parse pattern
  let pieces ← replacementFrom c 0 replacement
  let fuel := if everywhere then 2 * s.length + 2 else 1
  pure (replaceFrom f c.pattern pieces fuel false ⟨0, [], s⟩)

end Sigil.Pattern
