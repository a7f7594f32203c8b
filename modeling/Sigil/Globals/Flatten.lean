/-
# The shapes of global values

Global values are given either as a mapping from keys to entries or as a sequence of groups, each a
mapping from the name of a group to its entries; the keys of a group are prefixed with its name.
-/
import Sigil.Failure
import Sigil.Value.Iterate

namespace Sigil.Globals

/-- The text of a value, or the failure of a value that has none. -/
def textOf (r : Except Fault String) : Except Failure String := r.mapError .fault

/-- The error of a key of the global values, which shows the key. -/
def problem {α : Type} (key : Value) (text : String) : Except Failure α := do
  let _ ← textOf key.shown
  .error (.globalValue key text none)

/-- The key of an entry of a group. -/
def groupKey (group key : Value) : Except Failure Value := do
  let g ← textOf group.plain
  let k ← textOf key.plain
  pure (.text (g ++ "_" ++ k))

/-- The entries of a group with their prefixed keys. -/
def groupEntries (group : Value) : Entries → Except Failure Entries
  | [] => .ok []
  | (key, entry) :: rest => do
    let k ← groupKey group key
    let more ← groupEntries group rest
    pure ((k, entry) :: more)

/-- The entries of the groups of one mapping. -/
def groups : Entries → Except Failure Entries
  | [] => .ok []
  | (group, entries) :: rest =>
    match entries with
    | .mapping inner => do
      let first ← groupEntries group inner
      let more ← groups rest
      pure (first ++ more)
    | _ => do
      let name ← textOf group.plain
      problem (.text name) "a global value group must map keys to entries"

/-- The entries of a sequence of groups, in order; a key may occur more than once. -/
def namespaces : List Value → Except Failure Entries
  | [] => .ok []
  | group :: rest =>
    match group with
    | .mapping inner => do
      let first ← groups inner
      let more ← namespaces rest
      pure (first ++ more)
    | _ => do
      let name ← textOf group.shown
      problem (.text name) "namespaced global values must be mappings of group -> entries"

/-- The entries of global values in either shape. -/
def flatten : Value → Except Failure Entries
  | .null => .ok []
  | .mapping entries => .ok entries
  | .list items => (namespaces items).map Entries.ofPairs
  | .tuple items => (namespaces items).map Entries.ofPairs
  | v =>
    problem (.text v.typeName) "registry must be a mapping or a sequence of single-key mappings"

end Sigil.Globals
