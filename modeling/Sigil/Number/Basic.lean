/-
# Numbers

The numbers of expressions are integers of any size and 64-bit floats.  Operations on two integers
are exact; where a float takes part, the other number is rounded to a float first.  Comparison is
always exact.
-/
import Sigil.Decimal.Reading
import Sigil.Fault
import Sigil.Value.Basic
import Sigil.Value.Show

namespace Sigil

/-- A number. -/
inductive Number where
  /-- An integer. -/
  | int (n : Int)
  /-- A float. -/
  | float (x : Float)

namespace Number

/-- What an operation on numbers can fail with. -/
inductive Problem where
  /-- The argument is outside the domain of the function. -/
  | domain
  /-- The result is outside the range of floats. -/
  | range
  /-- Division of an integer by zero. -/
  | divisionByZero
  /-- Division of a float by zero. -/
  | floatDivisionByZero
  /-- A negative power of zero. -/
  | zeroToNegativePower
  /-- The power is outside the range of floats. -/
  | powerTooLarge
  /-- The integer is outside the range of floats. -/
  | intTooLarge
  /-- The quotient of the integers is outside the range of floats. -/
  | quotientTooLarge
  /-- Infinity is no integer. -/
  | infinityToInteger
  /-- What is not a number is no integer. -/
  | notANumberToInteger
  /-- The extremum of no numbers. -/
  | noNumbers (function : String)
deriving Repr, DecidableEq

/-- The fault of a problem. -/
def Problem.fault : Problem → Fault
  | domain => Fault.value "math domain error"
  | range => Fault.overflow "math range error"
  | divisionByZero => Fault.zeroDivision "division by zero"
  | floatDivisionByZero => Fault.zeroDivision "float division by zero"
  | zeroToNegativePower => Fault.zeroDivision "0.0 cannot be raised to a negative power"
  | powerTooLarge => Fault.overflow "(34, 'Numerical result out of range')"
  | intTooLarge => Fault.overflow "int too large to convert to float"
  | quotientTooLarge => Fault.overflow "integer division result too large for a float"
  | infinityToInteger => Fault.overflow "cannot convert float infinity to integer"
  | notANumberToInteger => Fault.value "cannot convert float NaN to integer"
  | noNumbers function => Fault.value (function ++ "() arg is an empty sequence")

/-- The value of a number. -/
def toValue : Number → Value
  | int n => .int n
  | float x => .float x

/-- A place on the line of numbers: the infinities lie at its ends. -/
inductive Place where
  /-- Before all numbers. -/
  | bottom
  /-- An exact value. -/
  | at (value : Decimal.Binary)
  /-- After all numbers. -/
  | top

/-- The place of a number; none for what is not a number. -/
def place? : Number → Option Place
  | int n => some (.at (.ofInt n))
  | float x =>
    match Decimal.Binary.ofFloat? x with
    | some d => some (.at d)
    | none => if x.isNaN then none else some (if x < 0 then .bottom else .top)

/-- The order of two places. -/
def Place.compare : Place → Place → Ordering
  | bottom, bottom => .eq
  | bottom, _ => .lt
  | top, top => .eq
  | top, _ => .gt
  | Place.at _, bottom => .gt
  | Place.at _, top => .lt
  | Place.at a, Place.at b => a.compare b

/-- The order of two numbers; none if one of them is not a number. -/
def compare? (a b : Number) : Option Ordering :=
  match a.place?, b.place? with
  | some p, some q => some (p.compare q)
  | _, _ => none

/-- The first number is the smaller one. -/
def lt (a b : Number) : Bool := compare? a b == some .lt

/-- The numbers are equal. -/
def eq (a b : Number) : Bool := compare? a b == some .eq

/-- The float nearest to an integer. -/
def floatOfInt (n : Int) : Except Problem Float :=
  let x := (Decimal.Binary.ofInt n).toFloat
  if Decimal.Binary.isFiniteBits x.toBits then .ok x else .error .intTooLarge

/-- The number as a float. -/
def toFloat : Number → Except Problem Float
  | int n => floatOfInt n
  | float x => .ok x

/-- The exact value of a float that is to become an integer. -/
def finite (x : Float) : Except Problem Decimal.Binary :=
  match Decimal.Binary.ofFloat? x with
  | some d => .ok d
  | none => .error (if x.isNaN then .notANumberToInteger else .infinityToInteger)

/-- The integer part. -/
def truncate : Number → Except Problem Int
  | int n => .ok n
  | float x => (finite x).map (·.truncate)

/-- The greatest integer that is not above the number. -/
def floor : Number → Except Problem Int
  | int n => .ok n
  | float x => (finite x).map (·.floor)

/-- The least integer that is not below the number. -/
def ceil : Number → Except Problem Int
  | int n => .ok n
  | float x => (finite x).map (·.ceil)

/-- The sum. -/
def add : Number → Number → Except Problem Number
  | int a, int b => .ok (int (a + b))
  | a, b => do
    let x ← a.toFloat
    let y ← b.toFloat
    pure (float (x + y))

/-- The difference. -/
def sub : Number → Number → Except Problem Number
  | int a, int b => .ok (int (a - b))
  | a, b => do
    let x ← a.toFloat
    let y ← b.toFloat
    pure (float (x - y))

/-- The product. -/
def mul : Number → Number → Except Problem Number
  | int a, int b => .ok (int (a * b))
  | a, b => do
    let x ← a.toFloat
    let y ← b.toFloat
    pure (float (x * y))

/-- The quotient as a float: of two integers, the exact quotient rounded once. -/
def div : Number → Number → Except Problem Float
  | int a, int b =>
    if b == 0 then .error .divisionByZero
    else
      let negative := (a < 0) != (b < 0)
      let x := (Decimal.Binary.ofQuotient negative a.natAbs b.natAbs).toFloat
      if Decimal.Binary.isFiniteBits x.toBits then .ok x else .error .quotientTooLarge
  | a, b => do
    let x ← a.toFloat
    let y ← b.toFloat
    if y == 0 then .error .floatDivisionByZero else pure (x / y)

/-- The absolute value. -/
def abs : Number → Number
  | int n => int n.natAbs
  | float x => float (Float.ofBits (x.toBits &&& 0x7FFFFFFFFFFFFFFF))

/-- The remainder of floats, with the sign of the dividend. -/
def floatRemainder (x y : Float) : Except Problem Float :=
  match Decimal.Binary.ofFloat? x, Decimal.Binary.ofFloat? y with
  | some a, some b =>
    if b.significand == 0 then .error .domain else .ok (a.remainder b).toFloat
  | some _, none => if y.isNaN then .ok y else .ok x
  | none, _ => if x.isNaN then .ok x else if y.isNaN then .ok y else .error .domain

/-- The remainder: both numbers become floats, and that of two integers an integer again. -/
def modulus (a b : Number) : Except Problem Number := do
  let x ← a.toFloat
  let y ← b.toFloat
  let r ← floatRemainder x y
  match a, b with
  | int _, int _ => (finite r).map fun d => int d.truncate
  | _, _ => pure (float r)

end Number

end Sigil
