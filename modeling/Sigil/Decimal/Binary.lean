/-
# The exact value of a binary float

A finite 64-bit float is an integer times a power of two.  This file reads that
number off the bits of a float and, in the other direction, rounds such a number to the nearest
float, a half going to the even neighbour.  Comparison, remainder and conversion to integers are
done on the exact numbers.
-/

namespace Sigil.Decimal

/-- The number `± significand * 2 ^ exponent`.  The sign is kept apart since zero has
one. -/
structure Binary where
  /-- The sign is minus. -/
  negative : Bool
  /-- The absolute value of the number in units of the power of two. -/
  significand : Nat
  /-- The exponent of the power of two. -/
  exponent : Int
deriving Repr, DecidableEq

namespace Binary

/-- The exponent field of all ones marks infinities and values that are not numbers. -/
def isFiniteBits (b : UInt64) : Bool := (b >>> 52) &&& 0x7FF != 0x7FF

/-- The number that the bits of a finite float stand for. -/
def ofBits (b : UInt64) : Binary :=
  let negative := b >>> 63 == 1
  let field := ((b >>> 52) &&& 0x7FF).toNat
  let fraction := (b &&& 0xFFFFFFFFFFFFF).toNat
  if field == 0 then ⟨negative, fraction, -1074⟩
  else ⟨negative, Nat.pow 2 52 + fraction, (field : Int) - 1075⟩

/-- The exact value of a finite float. -/
def ofFloat? (x : Float) : Option Binary :=
  if isFiniteBits x.toBits then some (ofBits x.toBits) else none

/-- The exact value of an integer. -/
def ofInt (n : Int) : Binary := ⟨decide (n < 0), n.natAbs, 0⟩

/-- The significand with its sign. -/
def signed (d : Binary) : Int := if d.negative then -(d.significand : Int) else d.significand

/-- The order of two exact values: both are brought to the smaller exponent. -/
def compare (a b : Binary) : Ordering :=
  let e := min a.exponent b.exponent
  Ord.compare (a.signed * Int.pow 2 (a.exponent - e).toNat)
    (b.signed * Int.pow 2 (b.exponent - e).toNat)

/-- The value is an integer. -/
def isInteger (d : Binary) : Bool :=
  0 ≤ d.exponent || d.significand % Nat.pow 2 (-d.exponent).toNat == 0

/-- The greatest integer that is not above the value. -/
def floor (d : Binary) : Int :=
  if 0 ≤ d.exponent then d.signed * Int.pow 2 d.exponent.toNat
  else Int.fdiv d.signed (Int.pow 2 (-d.exponent).toNat)

/-- The least integer that is not below the value. -/
def ceil (d : Binary) : Int := -(floor { d with negative := !d.negative })

/-- The integer part of the value. -/
def truncate (d : Binary) : Int :=
  if 0 ≤ d.exponent then d.signed * Int.pow 2 d.exponent.toNat
  else Int.tdiv d.signed (Int.pow 2 (-d.exponent).toNat)

/-- Rounding `n / 2 ^ shift` to the nearest natural number, a half going to the even one. -/
def roundShift (n shift : Nat) : Nat :=
  let q := n / Nat.pow 2 shift
  let r := n % Nat.pow 2 shift
  match Ord.compare (2 * r) (Nat.pow 2 shift) with
  | .lt => q
  | .gt => q + 1
  | .eq => if q % 2 == 0 then q else q + 1

/-- The number of binary digits. -/
def bitLength (n : Nat) : Nat := if n == 0 then 0 else n.log2 + 1

/-- The bits of the nearest float, and those of infinity where the value is too large. -/
def nearestBits (d : Binary) : UInt64 :=
  let sign : Nat := if d.negative then Nat.pow 2 63 else 0
  -- the exponent of the last place kept
  let last := max (d.exponent + bitLength d.significand - 53) (-1074)
  let kept :=
    if d.exponent ≥ last then d.significand * Nat.pow 2 (d.exponent - last).toNat
    else roundShift d.significand (last - d.exponent).toNat
  -- a carry out of the significand moves into the exponent field by itself
  let magnitude :=
    if kept < Nat.pow 2 52 then kept else (last + 1074).toNat * Nat.pow 2 52 + kept
  UInt64.ofNat (sign + min magnitude (0x7FF * Nat.pow 2 52))

/-- The nearest float; infinity where the value is too large. -/
def toFloat (d : Binary) : Float := Float.ofBits d.nearestBits

/-- The quotient of two natural numbers, rounded once: the result has enough places, and a
last one that only says whether something was cut off. -/
def ofQuotient (negative : Bool) (numerator denominator : Nat) : Binary :=
  let shift : Nat := 66 + bitLength denominator - bitLength numerator
  let scaled := numerator * Nat.pow 2 shift
  let q := scaled / denominator
  ⟨negative, if scaled % denominator == 0 then 2 * q else 2 * q + 1, -(shift : Int) - 1⟩

/-- The remainder of the division that cuts the quotient to an integer; it has the sign of the
dividend. -/
def remainder (a b : Binary) : Binary :=
  let e := min a.exponent b.exponent
  let m := a.significand * Nat.pow 2 (a.exponent - e).toNat
  let n := b.significand * Nat.pow 2 (b.exponent - e).toNat
  ⟨a.negative, m % n, e⟩

end Binary

end Sigil.Decimal
