/-
# Choice and comparison

Two arguments are compared as numbers if both read as numbers, and as texts otherwise.
-/
import Sigil.Library.Function

namespace Sigil.Library

/-- The first alternative if the condition is `true` or its text, the second one otherwise. -/
def choose (condition onTrue onFalse : Value) : Result :=
  match condition with
  | .bool true => .ok onTrue
  | .text s => .ok (if s == "true" then onTrue else onFalse)
  | _ => .ok onFalse

/-- The order of two arguments; none if one of them is the number that is not a number. -/
def compareValues (a b : Value) : Except Fault (Option Ordering) :=
  if readsAsNumber a && readsAsNumber b then do
    let x ← number a
    let y ← number b
    pure (Number.compare? x y)
  else do
    let s ← a.toText
    let t ← b.toText
    pure (some (if s == t then .eq else if s < t then .lt else .gt))

/-- A comparison that holds of some orders. -/
def comparison (holds : Option Ordering → Bool) (a b : Value) : Result :=
  (compareValues a b).map fun o => .bool (holds o)

/-- The arguments are equal. -/
def isEqual : Option Ordering → Bool
  | some .eq => true
  | _ => false

/-- The arguments are not equal. -/
def isUnequal (o : Option Ordering) : Bool := !isEqual o

/-- The first argument is greater. -/
def isGreater : Option Ordering → Bool
  | some .gt => true
  | _ => false

/-- The first argument is greater or equal. -/
def isGreaterOrEqual : Option Ordering → Bool
  | some .lt => false
  | some _ => true
  | none => false

/-- The first argument is smaller. -/
def isSmaller : Option Ordering → Bool
  | some .lt => true
  | _ => false

/-- The first argument is smaller or equal. -/
def isSmallerOrEqual : Option Ordering → Bool
  | some .gt => false
  | some _ => true
  | none => false

/-- The alternative where the value counts as false; otherwise the last argument, or the value if
that counts as false. -/
def ifNull (value alternative otherwise : Value) : Result :=
  .ok (if !value.isTruthy then alternative else if otherwise.isTruthy then otherwise else value)

/-- The functions of this file. -/
def logic : List Builtin :=
  [ternary "if" ["condition"] [.null, .null] choose,
   binary "eq" ["a", "b"] (comparison isEqual),
   binary "ne" ["a", "b"] (comparison isUnequal),
   binary "gt" ["a", "b"] (comparison isGreater),
   binary "gte" ["a", "b"] (comparison isGreaterOrEqual),
   binary "lt" ["a", "b"] (comparison isSmaller),
   binary "lte" ["a", "b"] (comparison isSmallerOrEqual),
   ternary "ifnull" ["value", "alternative"] [.null] ifNull]

end Sigil.Library
