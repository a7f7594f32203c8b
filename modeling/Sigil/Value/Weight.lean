/-
# The weight of values

The number of values that a value consists of, itself included.  It bounds the steps of what walks
through a value.
-/
import Sigil.Value.Basic

namespace Sigil.Value

mutual

/-- The number of values that a value consists of. -/
def weight : Value → Nat
  | .list items => weights items + 1
  | .tuple items => weights items + 1
  | .mapping entries => entryWeights entries + 1
  | .bytes b => b.length + 1
  | _ => 1

/-- The number of values that items consist of. -/
def weights : List Value → Nat
  | [] => 0
  | v :: rest => weight v + weights rest

/-- The number of values that entries consist of. -/
def entryWeights : List (Value × Value) → Nat
  | [] => 0
  | (k, v) :: rest => weight k + weight v + entryWeights rest

end

end Sigil.Value
