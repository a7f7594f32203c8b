/-
# The AES block cipher

A permutation of blocks of sixteen bytes under a key of 16, 24 or 32 bytes.  The bytes of a block
are its columns one after the other.  With the modes of operation and the padding of the standards
it makes a package of ciphers, the one that runs.
-/
import Sigil.Cipher.Package
import Sigil.Decimal.Notation

namespace Sigil.Cipher.Aes

/-- The product with `x` in the field of 256 elements. -/
def double (a : UInt8) : UInt8 := if a < 0x80 then a <<< 1 else (a <<< 1) ^^^ 0x1b

/-- The product in the field, from the bits of the second factor. -/
def productFrom : Nat → UInt8 → UInt8 → UInt8
  | 0, _, _ => 0
  | bits + 1, a, b =>
    (if b % 2 == 1 then a else 0) ^^^ productFrom bits (double a) (b / 2)

/-- The product in the field. -/
def product (a b : UInt8) : UInt8 := productFrom 8 a b

/-- The inverse in the field, zero for zero: the power by 254. -/
def inverse (a : UInt8) : UInt8 :=
  (List.range 6).foldl (fun p _ => product (product p p) a) a |> fun p => product p p

/-- The byte rotated to the left. -/
def rotate (x : UInt8) (n : UInt8) : UInt8 := (x <<< n) ||| (x >>> (8 - n))

/-- The substitution of a byte: an affine map of its inverse. -/
def substitute (a : UInt8) : UInt8 :=
  let b := inverse a
  b ^^^ rotate b 1 ^^^ rotate b 2 ^^^ rotate b 3 ^^^ rotate b 4 ^^^ 0x63

/-- The substitution of every byte. -/
def substitutions : Array UInt8 := (Array.range 256).map fun n => substitute n.toUInt8

/-- The inverse substitution of every byte. -/
def reverseSubstitutions : Array UInt8 :=
  (Array.range 256).foldl
    (fun t n => t.setIfInBounds (substitutions.getD n 0).toNat n.toUInt8) (Array.replicate 256 0)

/-- The bytes substituted. -/
def subBytes (table : Array UInt8) (s : List UInt8) : List UInt8 :=
  s.map fun b => table.getD b.toNat 0

/-- The bytes of a block from given places. -/
def permuted (place : Nat → Nat) (s : List UInt8) : List UInt8 :=
  let a := s.toArray
  (List.range 16).map fun i => a.getD (place i) 0

/-- Each row rotated to the left by its number. -/
def shiftRows (s : List UInt8) : List UInt8 :=
  permuted (fun i => (i + 4 * (i % 4)) % 16) s

/-- Each row rotated back. -/
def unshiftRows (s : List UInt8) : List UInt8 :=
  permuted (fun i => (i + 16 - 4 * (i % 4)) % 16) s

/-- A column multiplied by the matrix whose rows are the rotations of the given one. -/
def mixColumn (row : List UInt8) (column : List UInt8) : List UInt8 :=
  (List.range 4).map fun i =>
    let turned := row.drop (4 - i) ++ row.take (4 - i)
    (turned.zipWith product column).foldl (· ^^^ ·) 0

/-- Every column multiplied by such a matrix. -/
def mixColumns (row : List UInt8) (s : List UInt8) : List UInt8 :=
  (Bytes.chunks 4 s).flatMap (mixColumn row)

/-- The first row of the matrix that mixes columns. -/
def mixing : List UInt8 := [2, 3, 1, 1]

/-- The first row of its inverse. -/
def unmixing : List UInt8 := [14, 11, 13, 9]

/-- The word of the key schedule that follows those so far, for a key of `size` words; `constant` is
the constant of the next turn. -/
def nextWord (size : Nat) (words : Array (List UInt8)) (constant : UInt8) : List UInt8 :=
  let i := words.size
  let last := words.getD (i - 1) []
  let changed :=
    if i % size == 0 then
      Bytes.xor (subBytes substitutions (last.drop 1 ++ last.take 1)) [constant, 0, 0, 0]
    else if 6 < size && i % size == 4 then subBytes substitutions last
    else last
  Bytes.xor (words.getD (i - size) []) changed

/-- The key schedule extended by a number of words. -/
def extend (size : Nat) : Nat → Array (List UInt8) → UInt8 → Array (List UInt8)
  | 0, words, _ => words
  | more + 1, words, constant =>
    let turn := words.size % size == 0
    extend size more (words.push (nextWord size words constant))
      (if turn then double constant else constant)

/-- The keys of the rounds. -/
def roundKeys (key : List UInt8) : List (List UInt8) :=
  let size := key.length / 4
  let words := (Bytes.chunks 4 key).toArray
  Bytes.chunks 16 (extend size (4 * (size + 7) - size) words 1).toList.flatten

/-- The rounds after the first key; the last one does not mix columns. -/
def encryptRounds (s : List UInt8) : List (List UInt8) → List UInt8
  | [] => s
  | [key] => Bytes.xor (shiftRows (subBytes substitutions s)) key
  | key :: keys =>
    encryptRounds (Bytes.xor (mixColumns mixing (shiftRows (subBytes substitutions s))) key) keys

/-- A block encrypted with the keys of the rounds. -/
def encryptBlock (keys : List (List UInt8)) (block : List UInt8) : List UInt8 :=
  match keys with
  | [] => block
  | key :: keys => encryptRounds (Bytes.xor block key) keys

/-- The rounds undone, from the last to the first. -/
def decryptRounds (s : List UInt8) : List (List UInt8) → List UInt8
  | [] => s
  | [key] => Bytes.xor s key
  | key :: keys =>
    let t := mixColumns unmixing (Bytes.xor s key)
    decryptRounds (subBytes reverseSubstitutions (unshiftRows t)) keys

/-- A block decrypted with the keys of the rounds. -/
def decryptBlock (keys : List (List UInt8)) (block : List UInt8) : List UInt8 :=
  match keys.reverse with
  | [] => block
  | last :: keys =>
    decryptRounds (subBytes reverseSubstitutions (unshiftRows (Bytes.xor block last))) keys

/-- The cipher on blocks. -/
def cipher : BlockCipher where
  encrypt key := encryptBlock (roundKeys key)
  decrypt key := decryptBlock (roundKeys key)

/-- The name of a mode in messages. -/
def modeTitle : Mode → String
  | .cbc => "CBC"
  | .ctr => "CTR"
  | .cfb => "CFB"
  | .ofb => "OFB"

/-- The name in messages of the block that a mode starts from. -/
def startName : Mode → String
  | .ctr => "nonce"
  | _ => "IV"

/-- A message of a mode, or the fault of a chain that does not end with a whole block. -/
def taken (mode : Mode) (message : List UInt8) : Except Fault (List UInt8) :=
  if mode == .cbc && message.length % 16 != 0 then
    .error (Fault.value "The length of the provided data is not a multiple of the block length.")
  else .ok message

/-- The package that follows the standards with this cipher. -/
def package : Package where
  accept mode _ start :=
    if start.length == 16 then .ok ()
    else .error (Fault.value ("Invalid " ++ startName mode ++ " size ("
      ++ Decimal.ofInt start.length ++ ") for " ++ modeTitle mode ++ "."))
  encrypt mode key start message :=
    (taken mode message).map (mode.encrypt (cipher.encrypt key) start)
  decrypt mode key start message :=
    (taken mode message).map (mode.decrypt (cipher.encrypt key) (cipher.decrypt key) start)
  pad message := .ok (addPadding message)
  unpad padded :=
    match removePadding? padded with
    | some message => .ok message
    | none => .error (Fault.value "Invalid padding bytes.")

end Sigil.Cipher.Aes
