/-
# Base64

Three bytes as four characters of an alphabet of sixty-four; the last group is filled up with equals
signs.  A reader passes over all other characters.
-/
import Sigil.Bytes.Basic

namespace Sigil.Bytes

/-- The alphabet. -/
def base64Alphabet : List Char :=
  "ABCDEFGHIJKLMNOPQRSTUVWXYZabcdefghijklmnopqrstuvwxyz0123456789+/".toList

/-- The character of a number below sixty-four. -/
def base64Char (n : Nat) : Char := (base64Alphabet[n % 64]?).getD '='

/-- The four characters of up to three bytes. -/
def base64Group : List UInt8 → List Char
  | [a] =>
    let n := a.toNat * 16
    [base64Char (n / 64), base64Char n, '=', '=']
  | [a, b] =>
    let n := (a.toNat * 256 + b.toNat) * 4
    [base64Char (n / 4096), base64Char (n / 64), base64Char n, '=']
  | [a, b, c] =>
    let n := (a.toNat * 256 + b.toNat) * 256 + c.toNat
    [base64Char (n / 262144), base64Char (n / 4096), base64Char (n / 64), base64Char n]
  | _ => []

/-- The Base64 text of bytes. -/
def base64 (bytes : List UInt8) : List Char := (chunks 3 bytes).flatMap base64Group

/-- The numbers of the characters of the alphabet in a text, `count` being before it with `pads`
equals signs behind them.  Other characters do not count; what follows a complete filling does not
either. -/
def sextets (count pads : Nat) : List Char → Option (List Nat)
  | [] => if count % 4 == 0 then some [] else none
  | c :: rest =>
    if c == '=' then
      if count % 4 < 2 then sextets count pads rest
      else if 4 ≤ count % 4 + pads + 1 then some []
      else sextets count (pads + 1) rest
    else match base64Alphabet.idxOf? c with
      | some n => (sextets (count + 1) 0 rest).map (n :: ·)
      | none => sextets count pads rest

/-- The bytes that up to four numbers below sixty-four stand for. -/
def bytesOfSextets : List Nat → List UInt8
  | [a, b] => [(a * 4 + b / 16).toUInt8]
  | [a, b, c] => [(a * 4 + b / 16).toUInt8, (b % 16 * 16 + c / 4).toUInt8]
  | [a, b, c, d] =>
    [(a * 4 + b / 16).toUInt8, (b % 16 * 16 + c / 4).toUInt8, (c % 4 * 64 + d).toUInt8]
  | _ => []

/-- The bytes of a Base64 text. -/
def ofBase64? (s : List Char) : Option (List UInt8) :=
  (sextets 0 0 s).map fun ns => (chunks 4 ns).flatMap bytesOfSextets

end Sigil.Bytes
