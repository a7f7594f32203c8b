/-
# Numbers in expressions

A number with a point is a float, every other one an integer.
-/
import Sigil.Number.Basic

namespace Sigil

/-- The value of a number as it is written. -/
def numberLiteral (s : String) : Except Fault Value :=
  if s.toList.contains '.' then
    match Decimal.readFloat s with
    | .ok x => .ok (.float x)
    | .error e => .error e.fault
  else
    match Decimal.readInt s with
    | .ok n => .ok (.int n)
    | .error e => .error e.fault

end Sigil
