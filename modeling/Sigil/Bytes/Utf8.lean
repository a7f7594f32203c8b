/-
# Reading UTF-8

Bytes that are no well-formed UTF-8 are cut into faulty runs: a byte that starts no character, or
the longest start of a character that breaks off.  A lenient reader puts the replacement character
in the place of each run, a strict one reports the first.
-/
import Sigil.Bytes.Basic
import Sigil.Decimal.Notation
import Sigil.Fault
import Sigil.Text.Hex

namespace Sigil.Bytes

/-- What is wrong with a faulty run. -/
inductive Utf8Error where
  /-- A byte that starts no character. -/
  | invalidStart
  /-- A byte that does not continue the character begun. -/
  | invalidContinuation
  /-- The end within a character. -/
  | unexpectedEnd
deriving Repr, DecidableEq

/-- The wording of an error. -/
def Utf8Error.message : Utf8Error → String
  | invalidStart => "invalid start byte"
  | invalidContinuation => "invalid continuation byte"
  | unexpectedEnd => "unexpected end of data"

/-- What stands at the start of a run of bytes. -/
inductive Utf8Step where
  /-- A character of some bytes. -/
  | char (c : Char) (width : Nat)
  /-- A faulty run of some bytes. -/
  | fault (e : Utf8Error) (width : Nat)
deriving Repr, DecidableEq

/-- The byte continues a character. -/
def isContinuation (b : UInt8) : Bool := 0x80 ≤ b && b ≤ 0xBF

/-- The second byte fits the first one of three or four bytes: overlong forms, surrogates and code
points beyond the last are excluded. -/
def isSecond (first b : UInt8) : Bool :=
  isContinuation b && (first != 0xE0 || 0xA0 ≤ b) && (first != 0xED || b ≤ 0x9F)
    && (first != 0xF0 || 0x90 ≤ b) && (first != 0xF4 || b ≤ 0x8F)

/-- The six bits of a continuation byte. -/
def continuationBits (b : UInt8) : Nat := b.toNat % 64

/-- A character from the bits of its first byte and its continuation bytes. -/
def utf8Char (start : Nat) (more : List UInt8) : Char :=
  Char.ofNat (more.foldl (fun n b => 64 * n + continuationBits b) start)

/-- What stands at the start of `first :: rest`. -/
def utf8Step (first : UInt8) (rest : List UInt8) : Utf8Step :=
  if first < 0x80 then .char (Char.ofNat first.toNat) 1
  else if first < 0xC2 || 0xF4 < first then .fault .invalidStart 1
  else if first < 0xE0 then
    match rest with
    | [] => .fault .unexpectedEnd 1
    | b :: _ =>
      if isContinuation b then .char (utf8Char (first.toNat % 32) [b]) 2
      else .fault .invalidContinuation 1
  else
    match rest with
    | [] => .fault .unexpectedEnd 1
    | b :: rest =>
      if !isSecond first b then .fault .invalidContinuation 1
      else match rest with
        | [] => .fault .unexpectedEnd 2
        | c :: rest =>
          if !isContinuation c then .fault .invalidContinuation 2
          else if first < 0xF0 then .char (utf8Char (first.toNat % 16) [b, c]) 3
          else match rest with
            | [] => .fault .unexpectedEnd 3
            | d :: _ =>
              if isContinuation d then .char (utf8Char (first.toNat % 8) [b, c, d]) 4
              else .fault .invalidContinuation 3

/-- The characters of bytes, where `skip` bytes belong to what is already read; the replacement
character stands for each faulty run. -/
def lenientFrom : Nat → List UInt8 → List Char
  | _, [] => []
  | skip + 1, _ :: rest => lenientFrom skip rest
  | 0, b :: rest =>
    match utf8Step b rest with
    | .char c width => c :: lenientFrom (width - 1) rest
    | .fault _ width => '\uFFFD' :: lenientFrom (width - 1) rest

/-- The characters of bytes, the replacement character for each faulty run. -/
def decodeLenient (bytes : List UInt8) : List Char := lenientFrom 0 bytes

/-- The fault of a faulty run at a position. -/
def utf8Fault (position : Nat) (first : UInt8) (e : Utf8Error) (width : Nat) : Fault :=
  let place := if width == 1 then
      "byte 0x" ++ String.ofList (Text.hexPadded 2 first.toNat) ++ " in position "
        ++ Decimal.ofInt position
    else "bytes in position " ++ Decimal.ofInt position ++ "-"
      ++ Decimal.ofInt ((position + width - 1 : Nat) : Int)
  ⟨.decoding, some ("'utf-8' codec can't decode " ++ place ++ ": " ++ e.message)⟩

/-- The characters of bytes from a position on, where `skip` bytes belong to what is already
read. -/
def strictFrom : Nat → Nat → List UInt8 → Except Fault (List Char)
  | _, _, [] => .ok []
  | position, skip + 1, _ :: rest => strictFrom (position + 1) skip rest
  | position, 0, b :: rest =>
    match utf8Step b rest with
    | .char c width => (strictFrom (position + 1) (width - 1) rest).map (c :: ·)
    | .fault e width => .error (utf8Fault position b e width)

/-- The characters of bytes that are well-formed. -/
def decodeStrict (bytes : List UInt8) : Except Fault (List Char) := strictFrom 0 0 bytes

end Sigil.Bytes
