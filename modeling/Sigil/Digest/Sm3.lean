/-
# SM3

The digest of 32 bytes defined by sixty-four steps on eight words.
-/
import Sigil.Digest.Word

namespace Sigil.Digest.Sm3

/-- The words of the state. -/
structure State where
  /-- The first word. -/
  a : UInt32
  /-- The second word. -/
  b : UInt32
  /-- The third word. -/
  c : UInt32
  /-- The fourth word. -/
  d : UInt32
  /-- The fifth word. -/
  e : UInt32
  /-- The sixth word. -/
  f : UInt32
  /-- The seventh word. -/
  g : UInt32
  /-- The eighth word. -/
  h : UInt32

/-- The state at the start. -/
def start : State :=
  ⟨0x7380166f, 0x4914b2b9, 0x172442d7, 0xda8a0600, 0xa96f30bc, 0x163138aa, 0xe38dee4d, 0xb0fb0e4e⟩

/-- A linear mixing of the bits of a word. -/
def spread (m n : Nat) (x : UInt32) : UInt32 := x ^^^ rotl32 x m ^^^ rotl32 x n

/-- The word of the schedule that follows those so far. -/
def nextWord (w : Array UInt32) : UInt32 :=
  let i := w.size
  let x := w.getD (i - 16) 0 ^^^ w.getD (i - 9) 0 ^^^ rotl32 (w.getD (i - 3) 0) 15
  spread 15 23 x ^^^ rotl32 (w.getD (i - 13) 0) 7 ^^^ w.getD (i - 6) 0

/-- The words that a block gives. -/
def schedule (block : List UInt8) : Array UInt32 :=
  (List.range 52).foldl (fun w _ => w.push (nextWord w)) (words32 .big block)

/-- A step. -/
def step (w : Array UInt32) (s : State) (i : Nat) : State :=
  let constant : UInt32 := if i < 16 then 0x79cc4519 else 0x7a879d8a
  let early := i < 16
  let x := rotl32 (rotl32 s.a 12 + s.e + rotl32 constant (i % 32)) 7
  let y := x ^^^ rotl32 s.a 12
  let f := if early then s.a ^^^ s.b ^^^ s.c else (s.a &&& s.b) ||| (s.a &&& s.c) ||| (s.b &&& s.c)
  let g := if early then s.e ^^^ s.f ^^^ s.g else (s.e &&& s.f) ||| (~~~s.e &&& s.g)
  let t := f + s.d + y + (w.getD i 0 ^^^ w.getD (i + 4) 0)
  let u := g + s.h + x + w.getD i 0
  ⟨t, s.a, rotl32 s.b 9, s.c, spread 9 17 u, s.e, rotl32 s.f 19, s.g⟩

/-- The state after a block. -/
def absorb (s : State) (block : List UInt8) : State :=
  let t := (List.range 64).foldl (step (schedule block)) s
  ⟨s.a ^^^ t.a, s.b ^^^ t.b, s.c ^^^ t.c, s.d ^^^ t.d, s.e ^^^ t.e, s.f ^^^ t.f, s.g ^^^ t.g,
    s.h ^^^ t.h⟩

/-- The digest. -/
def digest (message : List UInt8) : List UInt8 :=
  let s := (paddedBlocks .big 64 8 message).foldl absorb start
  bytes32 .big [s.a, s.b, s.c, s.d, s.e, s.f, s.g, s.h]

end Sigil.Digest.Sm3
