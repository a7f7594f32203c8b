/-
# BLAKE2

Two digests, on words of 64 and of 32 bits, from rounds in which every column and then every
diagonal of a square of sixteen words is mixed with words of the message.
-/
import Sigil.Digest.Root
import Sigil.Digest.Word

namespace Sigil.Digest.Blake2

/-- What distinguishes the two widths of words. -/
structure Variant (Word : Type) where
  /-- The number of rounds for a block. -/
  rounds : Nat
  /-- The bytes of a block. -/
  blockSize : Nat
  /-- The state at the start, before the parameters. -/
  start : List Word
  /-- The four rotations to the right. -/
  rotate : (Word → Word) × (Word → Word) × (Word → Word) × (Word → Word)
  /-- The word of a number. -/
  ofNat : Nat → Word
  /-- The words of a block. -/
  words : List UInt8 → Array Word
  /-- The number of values of a word. -/
  modulus : Nat

/-- Words of 64 bits. -/
def wide : Variant UInt64 where
  rounds := 12
  blockSize := 128
  start := squareRoots.take 8
  rotate := (fun x => rotr64 x 32, fun x => rotr64 x 24, fun x => rotr64 x 16, fun x => rotr64 x 63)
  ofNat := Nat.toUInt64
  words := words64 .little
  modulus := Nat.pow 2 64

/-- Words of 32 bits. -/
def narrow : Variant UInt32 where
  rounds := 10
  blockSize := 64
  start := (squareRoots.take 8).map upperHalf
  rotate := (fun x => rotr32 x 16, fun x => rotr32 x 12, fun x => rotr32 x 8, fun x => rotr32 x 7)
  ofNat := Nat.toUInt32
  words := words32 .little
  modulus := Nat.pow 2 32

/-- The order in which the rounds take the words of a block. -/
def orders : Array (Array Nat) :=
  #[#[0, 1, 2, 3, 4, 5, 6, 7, 8, 9, 10, 11, 12, 13, 14, 15],
    #[14, 10, 4, 8, 9, 15, 13, 6, 1, 12, 0, 2, 11, 7, 5, 3],
    #[11, 8, 12, 0, 5, 2, 15, 13, 10, 14, 3, 6, 7, 1, 9, 4],
    #[7, 9, 3, 1, 13, 12, 11, 14, 2, 6, 5, 10, 4, 0, 15, 8],
    #[9, 0, 5, 7, 2, 4, 10, 15, 14, 1, 11, 12, 6, 8, 3, 13],
    #[2, 12, 6, 10, 0, 11, 8, 3, 4, 13, 7, 5, 15, 14, 1, 9],
    #[12, 5, 1, 15, 14, 13, 4, 10, 0, 7, 6, 3, 9, 2, 8, 11],
    #[13, 11, 7, 14, 12, 1, 3, 9, 5, 0, 15, 4, 8, 6, 2, 10],
    #[6, 15, 14, 9, 11, 3, 0, 8, 12, 2, 13, 7, 1, 4, 10, 5],
    #[10, 2, 8, 4, 7, 6, 1, 5, 15, 11, 9, 14, 3, 12, 13, 0]]

/-- The columns and the diagonals of the square. -/
def lines : List (Nat × Nat × Nat × Nat) :=
  [(0, 4, 8, 12), (1, 5, 9, 13), (2, 6, 10, 14), (3, 7, 11, 15),
   (0, 5, 10, 15), (1, 6, 11, 12), (2, 7, 8, 13), (3, 4, 9, 14)]

section Rounds

variable {Word : Type} [Add Word] [XorOp Word] [Complement Word]

/-- A line of the square mixed with two words of the message. -/
def mix (v : Variant Word) (s : Array Word) (line : Nat × Nat × Nat × Nat) (x y : Word) :
    Array Word :=
  let zero := v.ofNat 0
  let (i, j, k, l) := line
  let (r1, r2, r3, r4) := v.rotate
  let a := s.getD i zero + s.getD j zero + x
  let d := r1 (s.getD l zero ^^^ a)
  let c := s.getD k zero + d
  let b := r2 (s.getD j zero ^^^ c)
  let a := a + b + y
  let d := r3 (d ^^^ a)
  let c := c + d
  let b := r4 (b ^^^ c)
  (((s.setIfInBounds i a).setIfInBounds j b).setIfInBounds k c).setIfInBounds l d

/-- A round. -/
def round (v : Variant Word) (words : Array Word) (s : Array Word) (n : Nat) : Array Word :=
  let order := orders.getD (n % 10) #[]
  let taken (i : Nat) : Word := words.getD (order.getD i 0) (v.ofNat 0)
  (lines.zipIdx).foldl (fun s (line, i) => mix v s line (taken (2 * i)) (taken (2 * i + 1))) s

/-- The state after a block, with the number of bytes so far; the last block is marked. -/
def absorb (v : Variant Word) (h : List Word) (block : List UInt8) (count : Nat) (last : Bool) :
    List Word :=
  let counter := [v.ofNat (count % v.modulus), v.ofNat (count / v.modulus)]
  let tail := (v.start.drop 4).zipWith (· ^^^ ·)
    (counter ++ [if last then ~~~(v.ofNat 0) else v.ofNat 0, v.ofNat 0])
  let s := (h ++ v.start.take 4 ++ tail).toArray
  let t := ((List.range v.rounds).foldl (round v (v.words block)) s).toList
  (h.zipWith (· ^^^ ·) (t.take 8)).zipWith (· ^^^ ·) (t.drop 8)

/-- The state after all blocks, `count` bytes of the message being behind. -/
def absorbAll (v : Variant Word) (count : Nat) (h : List Word) : List (List UInt8) → List Word
  | [] => h
  | [block] =>
    absorb v h (block ++ List.replicate (v.blockSize - block.length) 0) (count + block.length) true
  | block :: rest =>
    absorbAll v (count + v.blockSize) (absorb v h block (count + v.blockSize) false) rest

/-- The words of the digest of a given size. -/
def words (v : Variant Word) (size : Nat) (message : List UInt8) : List Word :=
  let parameters := v.ofNat (0x01010000 + size)
  let h := match v.start with
    | first :: rest => (first ^^^ parameters) :: rest
    | [] => []
  absorbAll v 0 h (if message.isEmpty then [[]] else Bytes.chunks v.blockSize message)

end Rounds

/-- The digest of 64 bytes. -/
def blake2b (message : List UInt8) : List UInt8 := bytes64 .little (words wide 64 message)

/-- The digest of 32 bytes. -/
def blake2s (message : List UInt8) : List UInt8 := bytes32 .little (words narrow 32 message)

end Sigil.Digest.Blake2
