/-
# Digests and ciphers

The digest of a text under a named algorithm, and texts encrypted under a password by a package of
ciphers.  An encrypted text is the starting block and the encrypted bytes in hexadecimal digits,
with a colon between.
-/
import Sigil.Bytes.Base64
import Sigil.Bytes.CodePoint
import Sigil.Bytes.Utf8
import Sigil.Cipher.Package
import Sigil.Digest.Basic
import Sigil.Library.Function
import Sigil.Text.Folding

namespace Sigil.Library

/-- The ways to write a digest. -/
inductive DigestForm where
  /-- As hexadecimal digits. -/
  | hex
  /-- In Base64. -/
  | base64
  /-- One character for each byte. -/
  | latin1

/-- The names of the ways to write a digest. -/
def digestForms : List (String × DigestForm) :=
  [("hex", .hex), ("base64", .base64), ("latin1", .latin1), ("binary", .latin1)]

/-- The text of a digest. -/
def DigestForm.render : DigestForm → List UInt8 → List Char
  | hex, d => Text.hexOfBytes d
  | base64, d => Bytes.base64 d
  | latin1, d => d.map fun b => Char.ofNat b.toNat

/-- The operation that a way to write a digest performs, for messages. -/
def DigestForm.operation : DigestForm → String
  | hex => "hexdigest"
  | _ => "digest"

/-- The algorithm of a name. -/
def algorithmOf (name : List Char) : Except Fault Digest.Algorithm :=
  if name.contains '\x00' then .error (Fault.type "name must be a string")
  else match Digest.algorithm? (String.ofList name) with
    | some a => .ok a
    | none => .error (Fault.value ("unsupported hash type " ++ String.ofList name))

/-- The digest of a text. -/
def hash (v algorithm form : Value) : Result := do
  let name ← chars algorithm
  let text ← v.toText
  let a ← algorithmOf (Text.lower name)
  let formName ← chars form
  match digestForms.lookup (String.ofList (Text.lower formName)), a with
  | none, _ => .error (Fault.worded .value (form.shown.map ("unsupported digest encoding " ++ ·)))
  | some f, .fixed digest => .ok (textValue (f.render (digest (Bytes.ofText text))))
  | some f, .extendable => .error (Fault.type
      (f.operation ++ "() missing required argument 'length' (pos 1)"))

/-- A cipher ready to be used. -/
structure ReadyCipher where
  /-- The mode of operation. -/
  mode : Cipher.Mode
  /-- The key. -/
  key : List UInt8
  /-- The starting block. -/
  start : List UInt8

/-- The text without a start that is the same without regard to case. -/
def dropLetters? : List Char → List Char → Option (List Char)
  | [], s => some s
  | _ :: _, [] => none
  | c :: letters, d :: s => if Text.sameLetter c d then dropLetters? letters s else none

/-- The text without a hyphen at its start. -/
def dropHyphen : List Char → List Char
  | '-' :: s => s
  | s => s

/-- The length of a key in bits, written at the start of a text. -/
def keyBits? (s : List Char) : Option (Nat × List Char) :=
  [("128", 128), ("192", 192), ("256", 256)].findSome? fun (digits, bits) =>
    (dropLetters? digits.toList s).map fun rest => (bits, rest)

/-- The length of the key and the mode that a name of a cipher stands for. -/
def cipherNamed? (name : List Char) : Option (Nat × Cipher.Mode) := do
  let s ← dropLetters? ['a', 'e', 's'] name
  let (bits, s) ← keyBits? (dropHyphen s)
  Cipher.modeNames.findSome? fun (title, mode) =>
    match dropLetters? title.toList (dropHyphen s) with
    | some [] => some (bits, mode)
    | _ => none

section

variable (ciphers : Cipher.Package)

/-- The cipher that an algorithm, a password and a starting block give. -/
def cipherOf (algorithm password : Value) (start : List UInt8) : Except Fault ReadyCipher := do
  let name ← chars algorithm
  match cipherNamed? (Text.strip name) with
  | none => .error (Fault.worded .value
      (algorithm.shown.map ("unsupported cipher algorithm " ++ ·)))
  | some (bits, mode) => do
    let key := Bytes.ofText (← password.toText)
    if key.length * 8 != bits then
      let title ← algorithm.plain
      .error (Fault.value (title ++ " needs a " ++ Decimal.ofInt (bits / 8 : Nat)
        ++ "-byte password, got " ++ Decimal.ofInt key.length))
    else
      ciphers.accept mode key start
      pure ⟨mode, key, start⟩

/-- The message that holds bytes in a mode: a chain fills them up. -/
def messageOf (mode : Cipher.Mode) (bytes : List UInt8) : Except Fault (List UInt8) :=
  if mode == .cbc then ciphers.pad bytes else .ok bytes

/-- Bytes encrypted as a message. -/
def encryptBytes (c : ReadyCipher) (bytes : List UInt8) : Except Fault (List UInt8) := do
  let message ← messageOf ciphers c.mode bytes
  ciphers.encrypt c.mode c.key c.start message

/-- Code points encrypted under a password; the starting block is random, and the cipher is there
before the bytes of the code points are asked for. -/
def encryptCodePoints (h : Host) (text : Except Fault (List CodePoint))
    (algorithm password : Value) : Result := do
  let c ← cipherOf ciphers algorithm password (h.randomBytes 16)
  let bytes ← Bytes.ofCodePoints (← text)
  let body ← encryptBytes ciphers c bytes
  pure (textValue (Text.hexOfBytes c.start ++ ':' :: Text.hexOfBytes body))

/-- A text encrypted under a password. -/
def encrypt (h : Host) (v algorithm password : Value) : Result :=
  encryptCodePoints ciphers h (v.toText.map codePoints) algorithm password

end

/-- A blank between hexadecimal digits. -/
def isHexBlank (c : Char) : Bool := c == ' ' || ('\t' ≤ c && c ≤ '\r')

/-- The bytes written in hexadecimal digits from a position on; blanks may stand between bytes.  A
fault is the position of what is no digit. -/
def readHexFrom : Nat → List Char → Except Nat (List UInt8)
  | _, [] => .ok []
  | position, c :: rest =>
    if isHexBlank c then readHexFrom (position + 1) rest
    else match Text.hexValue? c, rest with
      | none, _ => .error position
      | some _, [] => .error (position + 1)
      | some high, d :: rest =>
        match Text.hexValue? d with
        | none => .error (position + 1)
        | some low => (readHexFrom (position + 2) rest).map ((16 * high + low).toUInt8 :: ·)

/-- The bytes written in hexadecimal digits; a character outside ASCII is reported first. -/
def readHex (s : List Char) : Except Fault (List UInt8) :=
  let r : Except Nat (List UInt8) := match s.findIdx? (fun c => 0x80 ≤ c.toNat) with
    | some i => .error i
    | none => readHexFrom 0 s
  r.mapError fun (i : Nat) => Fault.value
    ("non-hexadecimal number found in fromhex() arg at position " ++ Decimal.ofInt i)

section

variable (ciphers : Cipher.Package)

/-- The bytes that a message holds in a mode. -/
def bytesOf (mode : Cipher.Mode) (message : List UInt8) : Except Fault (List UInt8) :=
  if mode == .cbc then ciphers.unpad message else .ok message

/-- The bytes that encrypted bytes hold. -/
def decryptBytes (c : ReadyCipher) (body : List UInt8) : Except Fault (List UInt8) := do
  let message ← ciphers.decrypt c.mode c.key c.start body
  bytesOf ciphers c.mode message

/-- The text that an encrypted text holds. -/
def decrypt (v algorithm password : Value) : Result := do
  let s ← chars v
  let (startHex, bodyHex) := (Text.splitAt? ':' s).getD (s, [])
  let start ← readHex startHex
  let c ← cipherOf ciphers algorithm password start
  let body ← readHex bodyHex
  let bytes ← decryptBytes ciphers c body
  let text ← Bytes.decodeStrict bytes
  pure (textValue text)

/-- The functions of this file. -/
def secrets : List Builtin :=
  [ternary "hash" ["s", "algorithm"] [.text "hex"] hash,
   ⟨⟨"encrypt", ["s", "algorithm", "password"], [], false, false⟩, fun h _ args => match args with
     | [v, algorithm, password] => encrypt ciphers h v algorithm password
     | _ => .ok .null⟩,
   ternary "decrypt" ["s", "algorithm", "password"] [] (decrypt ciphers)]

end

end Sigil.Library
