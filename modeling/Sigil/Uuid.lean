/-
# Universally unique identifiers

Identifiers of sixteen bytes, written as hexadecimal digits in five groups, with their version in
the first digit of the third group.
-/
import Sigil.Bytes.Basic
import Sigil.Text.Hex

namespace Sigil.Uuid

/-- The lengths of the five groups of digits. -/
def groups : List Nat := [8, 4, 4, 4, 12]

/-- Digits in groups with hyphens between. -/
def hyphenated : List Nat → List Char → List Char
  | [], _ => []
  | [n], s => s.take n
  | n :: rest, s => s.take n ++ '-' :: hyphenated rest (s.drop n)

/-- The text of an identifier. -/
def render (bytes : List UInt8) : List Char := hyphenated groups (Text.hexOfBytes bytes)

/-- Sixteen bytes with the marks of a version and of this form of identifiers in place. -/
def mark (version : Nat) (bytes : List UInt8) : List UInt8 :=
  (bytes.take 16).mapIdx fun i b =>
    if i == 6 then (version * 16 + b.toNat % 16).toUInt8
    else if i == 8 then (128 + b.toNat % 64).toUInt8
    else b

/-- The text has digits and hyphens in the places where an identifier has them. -/
def hasForm (s : List Char) : Bool :=
  s.length == 36 && s.zipIdx.all fun (c, i) =>
    if i == 8 || i == 13 || i == 18 || i == 23 then c == '-' else (Text.hexValue? c).isSome

/-- The value of the digit at a place. -/
def digitAt (s : List Char) (i : Nat) : Nat := ((s[i]?).bind Text.hexValue?).getD 0

/-- All digits of a text are the same, in either case. -/
def isUniform (digit : Nat) (s : List Char) : Bool :=
  s.all fun c => c == '-' || Text.hexValue? c == some digit

/-- The text is an identifier: one of a version from 1 to 8, the one of zeros or the one of
highest digits. -/
def isValid (s : List Char) : Bool :=
  hasForm s && ((1 ≤ digitAt s 14 && digitAt s 14 ≤ 8 && 8 ≤ digitAt s 19 && digitAt s 19 ≤ 11)
    || isUniform 0 s || isUniform 15 s)

/-- The bytes of an identifier. -/
def bytesOf (s : List Char) : List UInt8 :=
  Bytes.big 16 ((Text.hexToNat? (s.filter (· != '-'))).getD 0)

/-- Hundreds of nanoseconds from the start of the calendar that counts them to Unix time. -/
def timeOffset : Nat := 0x01b21dd213814000

/-- The bytes of an identifier by time: hundreds of nanoseconds of Unix time, a number for the clock
and the bytes of a node. -/
def ofTime (ticks : Nat) (clock node : List UInt8) : List UInt8 :=
  let t := Bytes.little 8 (ticks + timeOffset)
  mark 1 ((t.take 4).reverse ++ ((t.drop 4).take 2).reverse ++ ((t.drop 6).take 2).reverse
    ++ clock.take 2 ++ node.take 6)

end Sigil.Uuid
