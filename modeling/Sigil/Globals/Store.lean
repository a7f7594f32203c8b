/-
# The store of global values

An accumulating store: merging adds or replaces entries and never drops one.
-/
import Sigil.Globals.Flatten

namespace Sigil.Globals

/-- The global values of an interpreter. -/
structure Store where
  /-- The entries, in the order in which their keys first arrived. -/
  entries : Entries

namespace Store

/-- The store without entries. -/
def empty : Store := ⟨[]⟩

/-- The store with further global values; values of no proper shape are refused. -/
def merge (s : Store) (new : Value) : Except Failure Store :=
  (flatten new).map fun entries => ⟨Entries.update s.entries entries⟩

/-- The number of entries. -/
def size (s : Store) : Nat := s.entries.length

/-- The store of initial global values, if there are any. -/
def ofInitial (initial : Value) : Except Failure Store := empty.merge initial

end Store

end Sigil.Globals
