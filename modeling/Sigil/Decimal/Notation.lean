/-
# Laying out decimal numbers

Two written forms of a float: the natural one, which has the fewest digits and turns to an exponent
for very large and very small values, and the one with a set number of places.
-/
import Sigil.Decimal.Shortest

namespace Sigil.Decimal

/-- The decimal digits of a natural number. -/
def natDigits (n : Nat) : List Char := Nat.toDigits 10 n

/-- The text of an integer. -/
def ofInt (n : Int) : String :=
  String.ofList (if n < 0 then '-' :: natDigits n.natAbs else natDigits n.natAbs)

/-- The decisions of a natural layout. -/
structure Layout where
  /-- The least exponent of the leading digit that is written positionally. -/
  positionalFrom : Int
  /-- The least exponent of the leading digit from which on an exponent is written again. -/
  positionalBelow : Int
  /-- The least number of digits of a written exponent. -/
  exponentWidth : Nat
  /-- The text of the infinities, without sign. -/
  infinity : String
  /-- The text of what is not a number. -/
  notANumber : String

/-- Floats are written positionally from `0.0001` to below `10 ^ 16`, always with a point, and
otherwise with a signed exponent of at least two digits. -/
def natural : Layout where
  positionalFrom := -4
  positionalBelow := 16
  exponentWidth := 2
  infinity := "inf"
  notANumber := "nan"

/-- Digits with zeros in front up to a width. -/
def padZeros (width : Nat) (digits : List Char) : List Char :=
  List.replicate (width - digits.length) '0' ++ digits

/-- The layout of a positive decimal. -/
def Layout.scaled (l : Layout) (s : Scaled) : List Char :=
  let digits := natDigits s.digits
  -- the exponent of the leading digit
  let lead := s.exponent + digits.length - 1
  if lead < l.positionalFrom || l.positionalBelow ≤ lead then
    let mantissa := match digits with
      | [d] => [d]
      | d :: rest => d :: '.' :: rest
      | [] => []
    let sign := if lead < 0 then '-' else '+'
    mantissa ++ 'e' :: sign :: padZeros l.exponentWidth (natDigits lead.natAbs)
  else if 0 ≤ s.exponent then digits ++ List.replicate s.exponent.toNat '0' ++ ['.', '0']
  else if lead < 0 then '0' :: '.' :: List.replicate (-lead - 1).toNat '0' ++ digits
  else digits.take (lead + 1).toNat ++ '.' :: digits.drop (lead + 1).toNat

/-- The text of a float. -/
def Layout.render (l : Layout) (x : Float) : String :=
  match Binary.ofFloat? x with
  | none =>
    if x.isNaN then l.notANumber
    else String.ofList ((if x < 0 then ['-'] else []) ++ l.infinity.toList)
  | some d =>
    let body := if d.significand == 0 then ['0', '.', '0'] else l.scaled (shortest d)
    String.ofList (if d.negative then '-' :: body else body)

/-- The text of a float in the natural layout. -/
def ofFloat (x : Float) : String := natural.render x

/-- The exact value rounded to a set number of places, a half going to the even digit. -/
def fixed (places : Nat) (x : Float) : String :=
  match Binary.ofFloat? x with
  | none => natural.render x
  | some d =>
    let numerator := d.significand * Nat.pow 2 d.exponent.toNat * Nat.pow 10 places
    let rounded := Binary.roundShift numerator (-d.exponent).toNat
    let digits := padZeros (places + 1) (natDigits rounded)
    let whole := digits.take (digits.length - places)
    let body := if places == 0 then whole else whole ++ '.' :: digits.drop (digits.length - places)
    String.ofList (if d.negative then '-' :: body else body)

end Sigil.Decimal
