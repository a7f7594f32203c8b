/-
# Modes of operation

How a cipher on blocks of sixteen bytes encrypts a message: block by block, each one chained to the
one before, or by combining the message with a stream of key bytes.
-/
import Sigil.Bytes.Basic

namespace Sigil.Cipher

/-- The modes. -/
inductive Mode where
  /-- Cipher block chaining. -/
  | cbc
  /-- A stream from an encrypted counter. -/
  | ctr
  /-- A stream from the encrypted message. -/
  | cfb
  /-- A stream from the encrypted stream. -/
  | ofb
deriving Repr, DecidableEq

/-- The modes with their names. -/
def modeNames : List (String × Mode) := [("cbc", .cbc), ("ctr", .ctr), ("cfb", .cfb), ("ofb", .ofb)]

/-- Blocks encrypted in a chain. -/
def chain (encrypt : List UInt8 → List UInt8) (last : List UInt8) :
    List (List UInt8) → List UInt8
  | [] => []
  | block :: rest =>
    let c := encrypt (Bytes.xor block last)
    c ++ chain encrypt c rest

/-- A chain of blocks decrypted. -/
def unchain (decrypt : List UInt8 → List UInt8) (last : List UInt8) :
    List (List UInt8) → List UInt8
  | [] => []
  | block :: rest => Bytes.xor (decrypt block) last ++ unchain decrypt block rest

/-- The block that follows a counter. -/
def increment (counter : List UInt8) : List UInt8 :=
  Bytes.big counter.length (Bytes.ofBig counter + 1)

/-- Blocks combined with the encrypted counter. -/
def count (encrypt : List UInt8 → List UInt8) (counter : List UInt8) :
    List (List UInt8) → List UInt8
  | [] => []
  | block :: rest =>
    Bytes.xor block (encrypt counter) ++ count encrypt (increment counter) rest

/-- Blocks combined with the encryption of the encrypted block before. -/
def feedBack (encrypt : List UInt8 → List UInt8) (last : List UInt8) :
    List (List UInt8) → List UInt8
  | [] => []
  | block :: rest =>
    let c := Bytes.xor block (encrypt last)
    c ++ feedBack encrypt c rest

/-- The inverse of `feedBack`. -/
def feedForward (encrypt : List UInt8 → List UInt8) (last : List UInt8) :
    List (List UInt8) → List UInt8
  | [] => []
  | block :: rest => Bytes.xor block (encrypt last) ++ feedForward encrypt block rest

/-- Blocks combined with the repeated encryption of a block. -/
def stream (encrypt : List UInt8 → List UInt8) (last : List UInt8) :
    List (List UInt8) → List UInt8
  | [] => []
  | block :: rest =>
    let k := encrypt last
    Bytes.xor block k ++ stream encrypt k rest

/-- A message encrypted with a cipher on blocks, from a starting block. -/
def Mode.encrypt (mode : Mode) (encrypt : List UInt8 → List UInt8) (start message : List UInt8) :
    List UInt8 :=
  let blocks := Bytes.chunks 16 message
  match mode with
  | .cbc => chain encrypt start blocks
  | .ctr => count encrypt start blocks
  | .cfb => feedBack encrypt start blocks
  | .ofb => stream encrypt start blocks

/-- A message decrypted with a cipher on blocks and its inverse, from a starting block. -/
def Mode.decrypt (mode : Mode) (encrypt decrypt : List UInt8 → List UInt8)
    (start message : List UInt8) : List UInt8 :=
  let blocks := Bytes.chunks 16 message
  match mode with
  | .cbc => unchain decrypt start blocks
  | .ctr => count encrypt start blocks
  | .cfb => feedForward encrypt start blocks
  | .ofb => stream encrypt start blocks

/-- A message filled up to whole blocks: each byte added says how many there are, at least one. -/
def addPadding (message : List UInt8) : List UInt8 :=
  let n := 16 - message.length % 16
  message ++ List.replicate n n.toUInt8

/-- The message without what fills it up. -/
def removePadding? (padded : List UInt8) : Option (List UInt8) :=
  match padded.getLast? with
  | none => none
  | some b =>
    let n := b.toNat
    let kept := padded.take (padded.length - n)
    if 1 ≤ n && n ≤ 16 && padded.drop (padded.length - n) == List.replicate n b then some kept
    else none

end Sigil.Cipher
