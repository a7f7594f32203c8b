/-
# Values as sequences and as mappings

The items that a value yields one after the other, and the mapping that a value gives where one is
expected: a mapping itself, or a sequence of pairs.
-/
import Sigil.Value.Key
import Sigil.Value.Show

namespace Sigil.Value

/-- The items of a value: those of a sequence, the characters of a text, the keys of a mapping, the
numbers of bytes. -/
def iterate? : Value → Option (List Value)
  | list items => some items
  | tuple items => some items
  | text s => some (s.toList.map fun c => text (String.singleton c))
  | mapping entries => some (Entries.keys entries)
  | bytes b => some (b.map fun n => int n.toNat)
  | _ => none

/-- The fault of iterating over a value that has no items. -/
def notIterable (v : Value) : Fault :=
  Fault.type ("'" ++ v.fullTypeName ++ "' object is not iterable")

/-- The items of a value that has to have some. -/
def iterate (v : Value) : Except Fault (List Value) :=
  match v.iterate? with
  | some items => .ok items
  | none => .error v.notIterable

/-- The fault of using a value as a key that is none. -/
def unhashable (typeName : String) : Fault := Fault.type ("unhashable type: '" ++ typeName ++ "'")

/-- The value, if it may be a key. -/
def asKey (v : Value) : Except Fault Value :=
  match v.unhashable? with
  | some name => .error (unhashable name)
  | none => .ok v

/-- The pairs of a sequence of pairs, the first of which has a given number. -/
def pairsFrom : Nat → List Value → Except Fault Entries
  | _, [] => .ok []
  | n, v :: rest =>
    match v.iterate? with
    | none => .error (Fault.type ("cannot convert dictionary update sequence element #"
        ++ Decimal.ofInt n ++ " to a sequence"))
    | some [key, value] => do
      let key ← asKey key
      let pairs ← pairsFrom (n + 1) rest
      pure ((key, value) :: pairs)
    | some items => .error (Fault.value ("dictionary update sequence element #" ++ Decimal.ofInt n
        ++ " has length " ++ Decimal.ofInt items.length ++ "; 2 is required"))

/-- The entries of a value as a mapping. -/
def toEntries : Value → Except Fault Entries
  | mapping entries => .ok entries
  | v => do
    let items ← v.iterate
    let pairs ← pairsFrom 0 items
    pure (Entries.ofPairs pairs)

end Sigil.Value
