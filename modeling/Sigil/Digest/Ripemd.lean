/-
# RIPEMD-160

The digest of 20 bytes defined by two lines of eighty steps on five words each, whose results are
combined.
-/
import Sigil.Digest.Word

namespace Sigil.Digest.Ripemd

/-- The words of the state. -/
structure State where
  /-- The first word. -/
  a : UInt32
  /-- The second word. -/
  b : UInt32
  /-- The third word. -/
  c : UInt32
  /-- The fourth word. -/
  d : UInt32
  /-- The fifth word. -/
  e : UInt32

/-- The state at the start. -/
def start : State := ⟨0x67452301, 0xefcdab89, 0x98badcfe, 0x10325476, 0xc3d2e1f0⟩

/-- What distinguishes the two lines. -/
structure Line where
  /-- The word of the block that each step takes in. -/
  order : Array Nat
  /-- The rotation of each step. -/
  rotations : Array Nat
  /-- The constant of each round. -/
  constants : Array UInt32
  /-- The mixing function of each round, by its number. -/
  mixer : Nat → Nat

/-- The left line. -/
def left : Line where
  order :=
    #[0, 1, 2, 3, 4, 5, 6, 7, 8, 9, 10, 11, 12, 13, 14, 15,
      7, 4, 13, 1, 10, 6, 15, 3, 12, 0, 9, 5, 2, 14, 11, 8,
      3, 10, 14, 4, 9, 15, 8, 1, 2, 7, 0, 6, 13, 11, 5, 12,
      1, 9, 11, 10, 0, 8, 12, 4, 13, 3, 7, 15, 14, 5, 6, 2,
      4, 0, 5, 9, 7, 12, 2, 10, 14, 1, 3, 8, 11, 6, 15, 13]
  rotations :=
    #[11, 14, 15, 12, 5, 8, 7, 9, 11, 13, 14, 15, 6, 7, 9, 8,
      7, 6, 8, 13, 11, 9, 7, 15, 7, 12, 15, 9, 11, 7, 13, 12,
      11, 13, 6, 7, 14, 9, 13, 15, 14, 8, 13, 6, 5, 12, 7, 5,
      11, 12, 14, 15, 14, 15, 9, 8, 9, 14, 5, 6, 8, 6, 5, 12,
      9, 15, 5, 11, 6, 8, 13, 12, 5, 12, 13, 14, 11, 8, 5, 6]
  constants := #[0, 0x5a827999, 0x6ed9eba1, 0x8f1bbcdc, 0xa953fd4e]
  mixer := id

/-- The right line. -/
def right : Line where
  order :=
    #[5, 14, 7, 0, 9, 2, 11, 4, 13, 6, 15, 8, 1, 10, 3, 12,
      6, 11, 3, 7, 0, 13, 5, 10, 14, 15, 8, 12, 4, 9, 1, 2,
      15, 5, 1, 3, 7, 14, 6, 9, 11, 8, 12, 2, 10, 0, 4, 13,
      8, 6, 4, 1, 3, 11, 15, 0, 5, 12, 2, 13, 9, 7, 10, 14,
      12, 15, 10, 4, 1, 5, 8, 7, 6, 2, 13, 14, 0, 3, 9, 11]
  rotations :=
    #[8, 9, 9, 11, 13, 15, 15, 5, 7, 7, 8, 11, 14, 14, 12, 6,
      9, 13, 15, 7, 12, 8, 9, 11, 7, 7, 12, 7, 6, 15, 13, 11,
      9, 7, 15, 11, 8, 6, 6, 14, 12, 13, 5, 14, 13, 13, 7, 5,
      15, 5, 8, 11, 14, 14, 6, 14, 6, 9, 12, 9, 12, 5, 15, 8,
      8, 5, 12, 9, 12, 5, 14, 6, 8, 13, 6, 5, 15, 13, 11, 11]
  constants := #[0x50a28be6, 0x5c4dd124, 0x6d703ef3, 0x7a6d76e9, 0]
  mixer := fun round => 4 - round

/-- The mixing functions. -/
def mix (n : Nat) (s : State) : UInt32 :=
  match n with
  | 0 => s.b ^^^ s.c ^^^ s.d
  | 1 => (s.b &&& s.c) ||| (~~~s.b &&& s.d)
  | 2 => (s.b ||| ~~~s.c) ^^^ s.d
  | 3 => (s.b &&& s.d) ||| (s.c &&& ~~~s.d)
  | _ => s.b ^^^ (s.c ||| ~~~s.d)

/-- A step of a line. -/
def step (l : Line) (words : Array UInt32) (s : State) (i : Nat) : State :=
  let sum := s.a + mix (l.mixer (i / 16)) s + words.getD (l.order.getD i 0) 0
    + l.constants.getD (i / 16) 0
  ⟨s.e, rotl32 sum (l.rotations.getD i 0) + s.e, s.b, rotl32 s.c 10, s.d⟩

/-- The end of a line. -/
def run (l : Line) (words : Array UInt32) (s : State) : State :=
  (List.range 80).foldl (step l words) s

/-- The state after a block. -/
def absorb (s : State) (block : List UInt8) : State :=
  let words := words32 .little block
  let x := run left words s
  let y := run right words s
  ⟨s.b + x.c + y.d, s.c + x.d + y.e, s.d + x.e + y.a, s.e + x.a + y.b, s.a + x.b + y.c⟩

/-- The digest. -/
def digest (message : List UInt8) : List UInt8 :=
  let s := (paddedBlocks .little 64 8 message).foldl absorb start
  bytes32 .little [s.a, s.b, s.c, s.d, s.e]

end Sigil.Digest.Ripemd
