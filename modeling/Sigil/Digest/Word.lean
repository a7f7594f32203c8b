/-
# Words

Words of 32 and 64 bits as the digests of this library use them: rotation, reading from bytes, and
the padding of a message by a single bit, zeros and the length in bits.
-/
import Sigil.Bytes.Basic

namespace Sigil.Digest

/-- The word rotated to the left by less than its width. -/
def rotl32 (x : UInt32) (n : Nat) : UInt32 :=
  (x <<< n.toUInt32) ||| (x >>> ((32 - n) % 32).toUInt32)

/-- The word rotated to the right by less than its width. -/
def rotr32 (x : UInt32) (n : Nat) : UInt32 := rotl32 x (32 - n)

/-- The word rotated to the left by less than its width. -/
def rotl64 (x : UInt64) (n : Nat) : UInt64 :=
  (x <<< n.toUInt64) ||| (x >>> ((64 - n) % 64).toUInt64)

/-- The word rotated to the right by less than its width. -/
def rotr64 (x : UInt64) (n : Nat) : UInt64 := rotl64 x (64 - n)

/-- The order of the bytes of a word. -/
inductive Order where
  /-- The lowest byte first. -/
  | little
  /-- The highest byte first. -/
  | big

/-- The bytes of a number. -/
def Order.bytes : Order → Nat → Nat → List UInt8
  | little => Bytes.little
  | big => Bytes.big

/-- The number with the given bytes. -/
def Order.number : Order → List UInt8 → Nat
  | little => Bytes.ofLittle
  | big => Bytes.ofBig

/-- The 32-bit words of a block. -/
def words32 (order : Order) (block : List UInt8) : Array UInt32 :=
  ((Bytes.chunks 4 block).map fun b => (order.number b).toUInt32).toArray

/-- The 64-bit words of a block. -/
def words64 (order : Order) (block : List UInt8) : Array UInt64 :=
  ((Bytes.chunks 8 block).map fun b => (order.number b).toUInt64).toArray

/-- The bytes of 32-bit words. -/
def bytes32 (order : Order) (words : List UInt32) : List UInt8 :=
  words.flatMap fun w => order.bytes 4 w.toNat

/-- The bytes of 64-bit words. -/
def bytes64 (order : Order) (words : List UInt64) : List UInt8 :=
  words.flatMap fun w => order.bytes 8 w.toNat

/-- The blocks of a message followed by a bit, zeros and its length in bits. -/
def paddedBlocks (order : Order) (width lengthWidth : Nat) (message : List UInt8) :
    List (List UInt8) :=
  let ended := message ++ [0x80]
  Bytes.chunks width (ended ++ Bytes.fill width (ended.length + lengthWidth)
    ++ order.bytes lengthWidth (8 * message.length))

end Sigil.Digest
