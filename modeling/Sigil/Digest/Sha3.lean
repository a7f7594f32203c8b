/-
# SHA-3

Digests from a permutation of 25 words of 64 bits: the message is absorbed block by block, and the
digest is the start of the last state.
-/
import Sigil.Digest.Word

namespace Sigil.Digest.Sha3

/-- The state: the word in column `x` and row `y` has index `x + 5 * y`. -/
abbrev State := Array UInt64

/-- The word at an index. -/
def word (s : State) (i : Nat) : UInt64 := s.getD i 0

/-- Each word combined with the parities of two neighbouring columns. -/
def theta (s : State) : State :=
  let parity (x : Nat) : UInt64 :=
    word s x ^^^ word s (x + 5) ^^^ word s (x + 10) ^^^ word s (x + 15) ^^^ word s (x + 20)
  let parities := (Array.range 5).map parity
  let change (x : Nat) : UInt64 :=
    parities.getD ((x + 4) % 5) 0 ^^^ rotl64 (parities.getD ((x + 1) % 5) 0) 1
  let changes := (Array.range 5).map change
  s.mapIdx fun i w => w ^^^ changes.getD (i % 5) 0

/-- The walk through the state from column 1 and row 0, with the rotation of each word. -/
def walk : Nat → Nat → Nat → List (Nat × Nat)
  | 0, _, _ => []
  | left + 1, x, y =>
    let t := 23 - left
    (x + 5 * y, (t + 1) * (t + 2) / 2 % 64) :: walk left y ((2 * x + 3 * y) % 5)

/-- The index and the rotation of each word but the first. -/
def rotations : List (Nat × Nat) := walk 24 1 0

/-- The words rotated and moved: that of column `x` and row `y` to column `y`. -/
def rhoPi (s : State) : State :=
  rotations.foldl (fun t (i, n) =>
    let x := i % 5
    let y := i / 5
    t.setIfInBounds (y + 5 * ((2 * x + 3 * y) % 5)) (rotl64 (word s i) n)) s

/-- Each word combined with the next two of its row. -/
def chi (s : State) : State :=
  (Array.range 25).map fun i =>
    let row := 5 * (i / 5)
    word s i ^^^ (~~~word s (row + (i + 1) % 5) &&& word s (row + (i + 2) % 5))

/-- The next state of the shift register that gives the constants. -/
def register (r : Nat) : Nat := if r < 128 then 2 * r else Nat.xor (2 * r) 0x171

/-- The constant of a round from a state of the register, with the state after it. -/
def constantFrom (r : Nat) : UInt64 × Nat :=
  (List.range 7).foldl (fun (c, r) j =>
    (if r % 2 == 1 then c ||| ((1 : UInt64) <<< (Nat.pow 2 j - 1).toUInt64) else c, register r))
    (0, r)

/-- The constants of the rounds. -/
def constants : Nat → Nat → List UInt64
  | 0, _ => []
  | rounds + 1, r =>
    let (c, r) := constantFrom r
    c :: constants rounds r

/-- The constants of the twenty-four rounds. -/
def roundConstants : List UInt64 := constants 24 1

/-- A round. -/
def round (s : State) (c : UInt64) : State := (chi (rhoPi (theta s))).modify 0 (· ^^^ c)

/-- The permutation. -/
def permute (s : State) : State := roundConstants.foldl round s

/-- The state after a block. -/
def absorb (s : State) (block : List UInt8) : State :=
  let words := words64 .little block
  permute (s.mapIdx fun i w => w ^^^ words.getD i 0)

/-- The message followed by its end mark, and zeros up to a last byte whose highest bit is set. -/
def padded (rate : Nat) (message : List UInt8) : List UInt8 :=
  let ended := message ++ [0x06]
  let filled := ended ++ Bytes.fill rate ended.length
  filled.dropLast ++ (filled.getLast?.map (· ||| 0x80)).toList

/-- The digest of a number of bytes. -/
def digest (size : Nat) (message : List UInt8) : List UInt8 :=
  let rate := 200 - 2 * size
  let s := (Bytes.chunks rate (padded rate message)).foldl absorb (Array.replicate 25 0)
  (bytes64 .little s.toList).take size

end Sigil.Digest.Sha3
