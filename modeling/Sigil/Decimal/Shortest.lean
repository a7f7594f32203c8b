/-
# The fewest digits that read back

Of the decimal numbers that round to a given float this file selects one with the fewest digits
and, among those, the one nearest to the float's exact value.  All comparisons are exact: a decimal
is compared with the ends of the interval of numbers that round to the float by multiplying out.
-/
import Sigil.Decimal.Binary

namespace Sigil.Decimal

/-- The decimal number `digits * 10 ^ exponent`. -/
structure Scaled where
  /-- The digits, read as a natural number. -/
  digits : Nat
  /-- The exponent of the power of ten. -/
  exponent : Int
deriving Repr, DecidableEq

/-- The order of `a * 10 ^ i` and `n * 2 ^ j`. -/
def compareScaled (a : Nat) (i : Int) (n : Nat) (j : Int) : Ordering :=
  compare (a * Nat.pow 10 i.toNat * Nat.pow 2 (-j).toNat)
    (n * Nat.pow 2 j.toNat * Nat.pow 10 (-i).toNat)

/-- The gap below a power of two is half the gap above it. -/
def narrowBelow (d : Binary) : Bool := d.significand == Nat.pow 2 52 && -1074 < d.exponent

/-- The decimal lies among the numbers that round to the float.  The ends of that interval belong
to it exactly if the significand is even. -/
def readsBack (d : Binary) (s : Scaled) : Bool :=
  let low := if narrowBelow d then 4 * d.significand - 1 else 4 * d.significand - 2
  let high := 4 * d.significand + 2
  let ends := d.significand % 2 == 0
  let atLow := compareScaled s.digits s.exponent low (d.exponent - 2)
  let atHigh := compareScaled s.digits s.exponent high (d.exponent - 2)
  (atLow == .gt || (ends && atLow == .eq)) && (atHigh == .lt || (ends && atHigh == .eq))

/-- The number of decimal digits before the point, for values from one on; for smaller values, minus
the number of zeros after the point.  The estimate from the binary length is at most one off, so
two steps correct it. -/
def decimalScale (d : Binary) : Int :=
  let estimate := ((d.exponent + Binary.bitLength d.significand) * 30103) / 100000
  let raise (k : Int) : Int :=
    if compareScaled 1 k d.significand d.exponent == .gt then k else k + 1
  raise (raise (raise (estimate - 1)))

/-- The two neighbours of the exact value on the grid of multiples of `10 ^ e`, the nearer first;
the even one comes first if both are equally near. -/
def neighbours (d : Binary) (e : Int) : List Scaled :=
  let numerator := d.significand * Nat.pow 2 d.exponent.toNat * Nat.pow 10 (-e).toNat
  let denominator := Nat.pow 2 (-d.exponent).toNat * Nat.pow 10 e.toNat
  let q := numerator / denominator
  let lower : Scaled := ⟨q, e⟩
  let higher : Scaled := ⟨q + 1, e⟩
  match compare (2 * (numerator % denominator)) denominator with
  | .lt => [lower, higher]
  | .gt => [higher, lower]
  | .eq => if q % 2 == 0 then [lower, higher] else [higher, lower]

/-- Trailing zeros of the digits moved into the exponent. -/
def stripZeros : Nat → Scaled → Scaled
  | 0, s => s
  | fuel + 1, s =>
    if s.digits != 0 && s.digits % 10 == 0 then stripZeros fuel ⟨s.digits / 10, s.exponent + 1⟩
    else s

/-- The decimal with the fewest digits that rounds to a positive finite float.  Seventeen digits
suffice for every float; beyond them the exact value is given. -/
def shortest (d : Binary) : Scaled :=
  let scale := decimalScale d
  let found := (List.range 17).findSome? fun (n : Nat) =>
    (neighbours d (scale - (n + 1))).find? (readsBack d)
  let exact := d.significand * Nat.pow 2 d.exponent.toNat * Nat.pow 5 (-d.exponent).toNat
  stripZeros 400 (found.getD ⟨exact, min d.exponent 0⟩)

end Sigil.Decimal
