/-
# SHA-1

The digest of 20 bytes defined by eighty steps on five words.
-/
import Sigil.Digest.Word

namespace Sigil.Digest.Sha1

/-- The words of the state. -/
structure State where
  /-- The first word. -/
  a : UInt32
  /-- The second word. -/
  b : UInt32
  /-- The third word. -/
  c : UInt32
  /-- The fourth word. -/
  d : UInt32
  /-- The fifth word. -/
  e : UInt32

/-- The state at the start. -/
def start : State := ⟨0x67452301, 0xefcdab89, 0x98badcfe, 0x10325476, 0xc3d2e1f0⟩

/-- The word of the schedule that follows those so far. -/
def nextWord (w : Array UInt32) : UInt32 :=
  let i := w.size
  rotl32 (w.getD (i - 3) 0 ^^^ w.getD (i - 8) 0 ^^^ w.getD (i - 14) 0 ^^^ w.getD (i - 16) 0) 1

/-- The eighty words that a block gives. -/
def schedule (block : List UInt8) : Array UInt32 :=
  (List.range 64).foldl (fun w _ => w.push (nextWord w)) (words32 .big block)

/-- The mixing function of a step and its constant. -/
def mix (i : Nat) (s : State) : UInt32 × UInt32 :=
  match i / 20 with
  | 0 => ((s.b &&& s.c) ||| (~~~s.b &&& s.d), 0x5a827999)
  | 1 => (s.b ^^^ s.c ^^^ s.d, 0x6ed9eba1)
  | 2 => ((s.b &&& s.c) ||| (s.b &&& s.d) ||| (s.c &&& s.d), 0x8f1bbcdc)
  | _ => (s.b ^^^ s.c ^^^ s.d, 0xca62c1d6)

/-- A step. -/
def step (w : Array UInt32) (s : State) (i : Nat) : State :=
  let (f, k) := mix i s
  ⟨rotl32 s.a 5 + f + s.e + k + w.getD i 0, s.a, rotl32 s.b 30, s.c, s.d⟩

/-- The state after a block. -/
def absorb (s : State) (block : List UInt8) : State :=
  let t := (List.range 80).foldl (step (schedule block)) s
  ⟨s.a + t.a, s.b + t.b, s.c + t.c, s.d + t.d, s.e + t.e⟩

/-- The digest. -/
def digest (message : List UInt8) : List UInt8 :=
  let s := (paddedBlocks .big 64 8 message).foldl absorb start
  bytes32 .big [s.a, s.b, s.c, s.d, s.e]

end Sigil.Digest.Sha1
