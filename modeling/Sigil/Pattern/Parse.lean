/-
# Reading patterns

The lexemes of a pattern are taken in one by one.  Open groups lie on a stack, each with its
alternatives so far; a repetition applies to the last pattern of the current alternative.
-/
import Sigil.Pattern.Lexeme

namespace Sigil.Pattern

/-- An open group. -/
structure Frame where
  /-- Its kind. -/
  kind : GroupKind
  /-- Its number, if it has one. -/
  number : Option Nat
  /-- The number of groups before it. -/
  groupsBefore : Nat
  /-- The alternatives that are complete, the last one first. -/
  alternatives : List Pattern
  /-- The patterns of the current alternative, the last one first. -/
  items : List Pattern

namespace Frame

/-- The pattern of all alternatives. -/
def pattern (f : Frame) : Pattern :=
  ofAlternatives (ofList f.items.reverse :: f.alternatives).reverse

/-- The frame with one more pattern. -/
def push (f : Frame) (p : Pattern) : Frame := { f with items := p :: f.items }

/-- The frame at the start of another alternative. -/
def split (f : Frame) : Frame :=
  { f with alternatives := ofList f.items.reverse :: f.alternatives, items := [] }

/-- The frame with its last pattern repeated. -/
def repeatLast (f : Frame) (least : Nat) (most : Option Nat) (greed : Greed) :
    Except Fault Frame :=
  match f.items with
  | p :: rest =>
    if p.isAnchor || p.isRepeated then .error malformed
    else .ok { f with items := .repeated least most greed p :: rest }
  | [] => .error malformed

end Frame

/-- The groups read so far. -/
structure Groups where
  /-- How many have begun. -/
  count : Nat
  /-- The numbers of those with a name. -/
  names : List (String × Nat)
  /-- The fixed widths of those that are complete. -/
  widths : List (Nat × Option Nat)

/-- The state between two lexemes: the groups, the innermost open group and those around it. -/
structure State where
  /-- The groups. -/
  groups : Groups
  /-- The innermost open group, or the pattern as a whole. -/
  top : Frame
  /-- The groups around it, from inside to outside. -/
  outer : List Frame

/-- The state before the first lexeme. -/
def State.start : State := ⟨⟨0, [], []⟩, ⟨.plain, none, 0, [], []⟩, []⟩

namespace State

/-- The state with one more pattern. -/
def push (s : State) (p : Pattern) : State := { s with top := s.top.push p }

/-- The number of groups before the outermost open condition on what precedes. -/
def behindStart? (s : State) : Option Nat :=
  ((s.top :: s.outer).reverse.find? fun f => match f.kind with
    | .behind _ => true
    | _ => false).map (·.groupsBefore)

/-- A reference to a group, which has to be complete; within a condition on what precedes it must
have begun before it. -/
def refer (s : State) (n : Nat) : Except Fault State :=
  let complete := s.groups.widths.any (·.1 == n)
  if complete && s.behindStart?.all (n ≤ ·) then .ok (s.push (.reference n)) else .error malformed

/-- The state after the start of a group. -/
def openGroup (s : State) (kind : GroupKind) : Except Fault State :=
  let frame (number : Option Nat) : Frame := ⟨kind, number, s.groups.count, [], []⟩
  match kind with
  | .numbered name =>
    let n := s.groups.count + 1
    if name.any fun x => s.groups.names.any (·.1 == x) then .error malformed
    else .ok ⟨⟨n, name.toList.map (·, n) ++ s.groups.names, s.groups.widths⟩, frame (some n),
      s.top :: s.outer⟩
  | _ => .ok ⟨s.groups, frame none, s.top :: s.outer⟩

/-- The fixed width of a pattern. -/
def width? (s : State) (p : Pattern) : Option Nat :=
  p.width? fun n => (s.groups.widths.lookup n).getD none

/-- The pattern of a complete group. -/
def closed (s : State) : Except Fault Pattern :=
  let p := s.top.pattern
  match s.top.kind with
  | .numbered _ => .ok (.group s.top.number p)
  | .plain => .ok (.group none p)
  | .atomic => .ok (.atomic p)
  | .ahead negated => .ok (.ahead negated p)
  | .behind negated =>
    match s.width? p with
    | some n => .ok (.behind negated n p)
    | none => .error malformed

/-- The state after the end of a group. -/
def closeGroup (s : State) : Except Fault State :=
  match s.outer with
  | [] => .error malformed
  | f :: outer => do
    let p ← s.closed
    let widths := s.top.number.toList.map fun n => (n, s.width? s.top.pattern)
    pure ⟨{ s.groups with widths := widths ++ s.groups.widths }, f.push p, outer⟩

/-- The state after a lexeme. -/
def step (s : State) : Lexeme → Except Fault State
  | .atom p => .ok (s.push p)
  | .reference n => s.refer n
  | .namedReference name =>
    match s.groups.names.lookup name with
    | some n => s.refer n
    | none => .error malformed
  | .repetition least most greed =>
    (s.top.repeatLast least most greed).map fun f => { s with top := f }
  | .opening kind => s.openGroup kind
  | .closing => s.closeGroup
  | .bar => .ok { s with top := s.top.split }
  | .comment => .ok s

end State

/-- A pattern that is read, with its groups. -/
structure Compiled where
  /-- The pattern. -/
  pattern : Pattern
  /-- How many groups it has. -/
  groups : Nat
  /-- The numbers of those with a name. -/
  names : List (String × Nat)

/-- The pattern that a text stands for. -/
def parse (s : List Char) : Except Fault Compiled := do
  let ls ← lexemes s
  let st ← ls.foldlM State.step State.start
  if st.outer.isEmpty then pure ⟨st.top.pattern, st.groups.count, st.groups.names⟩
  else .error malformed

end Sigil.Pattern
