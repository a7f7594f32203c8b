/-
# SHA-2

The family of digests defined on eight words of 32 or 64 bits.  Its members differ in the width of
the words, the state at the start and the number of bytes that are kept.
-/
import Sigil.Digest.Root
import Sigil.Digest.Word

namespace Sigil.Digest.Sha2

/-- What distinguishes the two widths of words. -/
structure Variant (Word : Type) where
  /-- The number of steps for a block. -/
  steps : Nat
  /-- The constant of each step. -/
  constants : Array Word
  /-- The two functions that extend the schedule. -/
  small : (Word → Word) × (Word → Word)
  /-- The two functions that mix the state. -/
  large : (Word → Word) × (Word → Word)

/-- Words of 32 bits. -/
def narrow : Variant UInt32 where
  steps := 64
  constants := cubeRoots.map upperHalf
  small := (fun x => rotr32 x 7 ^^^ rotr32 x 18 ^^^ (x >>> 3),
    fun x => rotr32 x 17 ^^^ rotr32 x 19 ^^^ (x >>> 10))
  large := (fun x => rotr32 x 2 ^^^ rotr32 x 13 ^^^ rotr32 x 22,
    fun x => rotr32 x 6 ^^^ rotr32 x 11 ^^^ rotr32 x 25)

/-- Words of 64 bits. -/
def wide : Variant UInt64 where
  steps := 80
  constants := cubeRoots
  small := (fun x => rotr64 x 1 ^^^ rotr64 x 8 ^^^ (x >>> 7),
    fun x => rotr64 x 19 ^^^ rotr64 x 61 ^^^ (x >>> 6))
  large := (fun x => rotr64 x 28 ^^^ rotr64 x 34 ^^^ rotr64 x 39,
    fun x => rotr64 x 14 ^^^ rotr64 x 18 ^^^ rotr64 x 41)

/-- The words of the state. -/
structure State (Word : Type) where
  /-- The first word. -/
  a : Word
  /-- The second word. -/
  b : Word
  /-- The third word. -/
  c : Word
  /-- The fourth word. -/
  d : Word
  /-- The fifth word. -/
  e : Word
  /-- The sixth word. -/
  f : Word
  /-- The seventh word. -/
  g : Word
  /-- The eighth word. -/
  h : Word

namespace State

/-- The words of a state, in order. -/
def toList {Word : Type} (s : State Word) : List Word := [s.a, s.b, s.c, s.d, s.e, s.f, s.g, s.h]

/-- The state with the first eight of the given words. -/
def ofList {Word : Type} (zero : Word) (ws : List Word) : State Word :=
  let w (i : Nat) : Word := (ws[i]?).getD zero
  ⟨w 0, w 1, w 2, w 3, w 4, w 5, w 6, w 7⟩

end State

section Rounds

variable {Word : Type} [Add Word] [AndOp Word] [XorOp Word] [Complement Word]

/-- The word of the schedule that follows those so far. -/
def nextWord (v : Variant Word) (zero : Word) (w : Array Word) : Word :=
  let i := w.size
  w.getD (i - 16) zero + v.small.1 (w.getD (i - 15) zero) + w.getD (i - 7) zero
    + v.small.2 (w.getD (i - 2) zero)

/-- The words that a block of sixteen gives, one for each step. -/
def schedule (v : Variant Word) (zero : Word) (block : Array Word) : Array Word :=
  (List.range (v.steps - 16)).foldl (fun w _ => w.push (nextWord v zero w)) block

/-- A step. -/
def step (v : Variant Word) (zero : Word) (w : Array Word) (s : State Word) (i : Nat) :
    State Word :=
  let choice := (s.e &&& s.f) ^^^ (~~~s.e &&& s.g)
  let majority := (s.a &&& s.b) ^^^ (s.a &&& s.c) ^^^ (s.b &&& s.c)
  let t := s.h + v.large.2 s.e + choice + v.constants.getD i zero + w.getD i zero
  ⟨t + (v.large.1 s.a + majority), s.a, s.b, s.c, s.d + t, s.e, s.f, s.g⟩

/-- The state after a block. -/
def absorb (v : Variant Word) (zero : Word) (s : State Word) (block : Array Word) : State Word :=
  let t := (List.range v.steps).foldl (step v zero (schedule v zero block)) s
  ⟨s.a + t.a, s.b + t.b, s.c + t.c, s.d + t.d, s.e + t.e, s.f + t.f, s.g + t.g, s.h + t.h⟩

end Rounds

/-- The digest on words of 32 bits with a given start. -/
def digest32 (start : List UInt32) (message : List UInt8) : List UInt8 :=
  let blocks := (paddedBlocks .big 64 8 message).map (words32 .big)
  bytes32 .big (blocks.foldl (absorb narrow 0) (State.ofList 0 start)).toList

/-- The digest on words of 64 bits with a given start. -/
def digest64 (start : List UInt64) (message : List UInt8) : List UInt8 :=
  let blocks := (paddedBlocks .big 128 16 message).map (words64 .big)
  bytes64 .big (blocks.foldl (absorb wide 0) (State.ofList 0 start)).toList

/-- The digest of 28 bytes. -/
def sha224 (message : List UInt8) : List UInt8 :=
  (digest32 ((squareRoots.drop 8).map lowerHalf) message).take 28

/-- The digest of 32 bytes. -/
def sha256 (message : List UInt8) : List UInt8 :=
  digest32 ((squareRoots.take 8).map upperHalf) message

/-- The digest of 48 bytes. -/
def sha384 (message : List UInt8) : List UInt8 := (digest64 (squareRoots.drop 8) message).take 48

/-- The digest of 64 bytes. -/
def sha512 (message : List UInt8) : List UInt8 := digest64 (squareRoots.take 8) message

/-- The start of a shortened digest on words of 64 bits: the digest of its name, from a changed
start. -/
def shortenedStart (name : String) : List UInt64 :=
  let changed := (squareRoots.take 8).map (· ^^^ 0xa5a5a5a5a5a5a5a5)
  (words64 .big (digest64 changed (Bytes.ofText name))).toList

/-- The digest of 28 bytes on words of 64 bits. -/
def sha512short224 (message : List UInt8) : List UInt8 :=
  (digest64 (shortenedStart "SHA-512/224") message).take 28

/-- The digest of 32 bytes on words of 64 bits. -/
def sha512short256 (message : List UInt8) : List UInt8 :=
  (digest64 (shortenedStart "SHA-512/256") message).take 32

end Sigil.Digest.Sha2
