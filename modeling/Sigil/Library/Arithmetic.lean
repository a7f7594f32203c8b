/-
# Arithmetic

Sums, products, quotients and powers, rounding, extrema, and the elementary functions.
-/
import Sigil.Library.Function

namespace Sigil.Library

/-- An elementary function: what is not a number comes only from what is not a number, and an
infinity only from one, or the result is out of range where the function can grow that far. -/
def elementary (canOverflow : Bool) (f : Float → Float) (v : Value) : Result := do
  let n ← number v
  let x ← lift n.toFloat
  let y := f x
  if y.isNaN && !x.isNaN then .error Number.Problem.domain.fault
  else if y.isInf && x.isFinite then
    .error (if canOverflow then Number.Problem.range.fault else Number.Problem.domain.fault)
  else .ok (.float y)

/-- The natural logarithm of an integer too large for a float: that of its leading digits and a
multiple of that of two. -/
def logOfLarge (n : Nat) : Float :=
  let shift := Decimal.Binary.bitLength n
  let leading := (Decimal.Binary.toFloat ⟨false, n, -(shift : Int)⟩)
  leading.log + (Float.log 2) * Float.ofNat shift

/-- The natural logarithm of a float. -/
def logOfFloat (x : Float) : Result :=
  if x.isNaN then .ok (.float x)
  else if x ≤ 0 then .error Number.Problem.domain.fault
  else .ok (.float x.log)

/-- The natural logarithm. -/
def logarithm (v : Value) : Result := do
  let n ← number v
  match n with
  | .float x => logOfFloat x
  | .int k =>
    if k ≤ 0 then .error Number.Problem.domain.fault
    else match Number.floatOfInt k with
      | .ok x => logOfFloat x
      | .error _ => .ok (.float (logOfLarge k.natAbs))

/-- The absolute value. -/
def absolute (v : Value) : Result := (number v).map fun n => n.abs.toValue

/-- The nearest integer, a half going up. -/
def rounded (v : Value) : Result := do
  let n ← number v
  let x ← lift (n.add (.float 0.5))
  let k ← lift x.floor
  pure (.int k)

/-- The least integer that is not below. -/
def ceiling (v : Value) : Result := do
  let n ← number v
  let k ← lift n.ceil
  pure (.int k)

/-- The greatest integer that is not above. -/
def flooring (v : Value) : Result := do
  let n ← number v
  let k ← lift n.floor
  pure (.int k)

/-- An integral float that is odd. -/
def isOddFloat (x : Float) : Bool :=
  match integerOfFloat? x with
  | some n => n % 2 != 0
  | none => false

/-- The power of a negative float with an exponent that is no integer, a complex number. -/
def complexPower (base exponent : Float) : Result :=
  let length := Float.pow (-base) exponent
  let phase := Float.atan2 0 base * exponent
  let re := length * phase.cos
  let im := length * phase.sin
  if re.isInf || im.isInf then .error (Fault.overflow "complex exponentiation")
  else .ok (.complex re im)

/-- The power of a float without sign, which has to be in range. -/
def positivePower (negate : Bool) (base exponent : Float) : Result :=
  if base == 1 then .ok (.float (if negate then -1 else 1))
  else
    let x := Float.pow base exponent
    if x.isInf then .error Number.Problem.powerTooLarge.fault
    else .ok (.float (if negate then -x else x))

/-- The power of an infinity to an exponent that is not zero. -/
def infinitePower (base exponent : Float) : Float :=
  if exponent > 0 then (if isOddFloat exponent then base else base.abs)
  else if isOddFloat exponent && base < 0 then -0.0 else 0.0

/-- The power of a float. -/
def floatPower (base exponent : Float) : Result :=
  if exponent == 0 then .ok (.float 1)
  else if base.isNaN then .ok (.float base)
  else if exponent.isNaN then .ok (.float (if base == 1 then 1 else exponent))
  else if exponent.isInf then
    let size := base.abs
    .ok (.float (if size == 1 then 1
      else if decide (exponent > 0) == decide (size > 1) then exponent.abs else 0))
  else if base.isInf then .ok (.float (infinitePower base exponent))
  else if base == 0 then
    if exponent < 0 then .error Number.Problem.zeroToNegativePower.fault
    else .ok (.float (if isOddFloat exponent then base else 0))
  else if base < 0 then
    match integerOfFloat? exponent with
    | none => complexPower base exponent
    | some _ => positivePower (isOddFloat exponent) (-base) exponent
  else positivePower false base exponent

/-- A power: exact for integers unless the exponent is negative. -/
def power (a b : Value) : Result := do
  let x ← number a
  let y ← number b
  match x, y with
  | .int m, .int n =>
    if 0 ≤ n then pure (.int (Int.pow m n.toNat))
    else do
      let p ← lift x.toFloat
      let q ← lift y.toFloat
      floatPower p q
  | _, _ => do
    let p ← lift x.toFloat
    let q ← lift y.toFloat
    floatPower p q

/-- The numbers that arguments read as, each combined with the result so far before the next one
is read. -/
def accumulate (combine : Number → Number → Except Number.Problem Number) (start : Number) :
    List Value → Except Fault Number
  | [] => .ok start
  | v :: rest => do
    let n ← number v
    let next ← lift (combine start n)
    accumulate combine next rest

/-- An extremum of the arguments. -/
def extremum (name : String) (better : Number → Number → Bool) : List Value → Result
  | [] => .error (Number.Problem.noNumbers name).fault
  | v :: rest => do
    let first ← number v
    let best ← accumulate (fun best x => .ok (if better x best then x else best)) first rest
    pure best.toValue

/-- The greatest argument, the first of equal ones. -/
def maximum (args : List Value) : Result := extremum "max" (fun x best => Number.lt best x) args

/-- The least argument, the first of equal ones. -/
def minimum (args : List Value) : Result := extremum "min" Number.lt args

/-- The sum of the arguments. -/
def sum (args : List Value) : Result :=
  (accumulate Number.add (.int 0) args).map Number.toValue

/-- The first argument less all others. -/
def difference (args : List Value) : Result :=
  match args with
  | [] => .ok (.int 0)
  | first :: rest => do
    let n ← number first
    let r ← accumulate Number.sub n rest
    pure r.toValue

/-- The product. -/
def product (a b : Value) : Result := do
  let x ← number a
  let y ← number b
  let r ← lift (x.mul y)
  pure r.toValue

/-- The quotient. -/
def quotient (a b : Value) : Result := do
  let x ← number a
  let y ← number b
  let r ← lift (x.div y)
  pure (.float r)

/-- The remainder. -/
def remainder (a b : Value) : Result := do
  let x ← number a
  let y ← number b
  let r ← lift (x.modulus y)
  pure r.toValue

/-- The least and the greatest integer of a range, where both are given. -/
def randomRange (low high : Value) : Except Fault (Option (Int × Int)) :=
  if low.isBlank || high.isBlank then .ok none
  else do
    let l ← integer low
    let h ← integer high
    pure (some (l, h))

/-- A random number: between zero and one, or in a range; as text if a number of digits is given. -/
def randomNumber (random : Float) (digits low high : Value) : Result := do
  let range ← randomRange low high
  let x ← match range with
    | none => pure random
    | some (l, h) => do
      let width ← lift (Number.floatOfInt (h + 1 - l))
      let start ← lift (Number.floatOfInt l)
      pure (random * width + start)
  if digits.isBlank then pure (.float x)
  else do
    let places ← integer digits
    if places < 0 then .error (Fault.value "Format specifier missing precision")
    else pure (.text (Decimal.fixed places.toNat x))

/-- The functions of this file. -/
def arithmetic : List Builtin :=
  [unary "sin" "x" (elementary false Float.sin),
   unary "cos" "x" (elementary false Float.cos),
   unary "tan" "x" (elementary false Float.tan),
   unary "asin" "x" (elementary false Float.asin),
   unary "acos" "x" (elementary false Float.acos),
   unary "atan" "x" (elementary false Float.atan),
   unary "abs" "x" absolute,
   unary "round" "x" rounded,
   unary "ceil" "x" ceiling,
   unary "floor" "x" flooring,
   unary "log" "x" logarithm,
   unary "exp" "x" (elementary true Float.exp),
   binary "pow" ["b", "e"] power,
   unary "sqrt" "x" (elementary false Float.sqrt),
   variadic "max" [] maximum,
   variadic "min" [] minimum,
   variadic "add" [] sum,
   ⟨⟨"subtract", [], [.int 0], true, false⟩, fun _ _ args => difference args⟩,
   binary "multiply" ["a", "b"] product,
   binary "divide" ["a", "b"] quotient,
   binary "modulus" ["a", "b"] remainder,
   ⟨⟨"random", [], [.null, .null, .null], false, false⟩, fun h _ args => match args with
     | [digits, low, high] => randomNumber h.random digits low high
     | _ => .ok .null⟩]

end Sigil.Library
