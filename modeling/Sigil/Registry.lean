/-
# Registries of functions

A registry binds names to functions, whatever functions are.  Names are compared in lower case and
without a leading sigil.  Every entry also says whether its function is given the parameters that
are in force.
-/
import Sigil.Token.Scan
import Sigil.Value.Show

namespace Sigil

/-- A registered function. -/
structure RegistryEntry (α : Type) where
  /-- The name under which the function is registered. -/
  name : String
  /-- The function. -/
  function : α
  /-- The function is given the parameters in force. -/
  wantsParams : Bool

/-- The registered functions, in the order in which their names were first registered. -/
structure Registry (α : Type) where
  /-- The entries. -/
  entries : List (RegistryEntry α)

namespace Registry

variable {α : Type}

/-- The registry without functions. -/
def empty : Registry α := ⟨[]⟩

/-- The names, in the order in which they were first registered. -/
def names (r : Registry α) : List String := r.entries.map (·.name)

/-- The names in alphabetical order. -/
def sortedNames (r : Registry α) : List String := r.names.mergeSort (fun a b => decide (a ≤ b))

/-- The entry with exactly this name. -/
def find? (r : Registry α) (key : String) : Option (RegistryEntry α) :=
  r.entries.find? (·.name == key)

/-- The entry of a name in any spelling. -/
def lookup (r : Registry α) (name : String) : Option (RegistryEntry α) :=
  r.find? (normalizeName name)

/-- A name in any spelling is registered. -/
def contains (r : Registry α) (name : String) : Bool := (r.lookup name).isSome

/-- An exact name is registered. -/
def isName (r : Registry α) (key : String) : Bool := (r.find? key).isSome

/-- The entries with one more, in the place of the one with its name if there is one. -/
def insertEntry (entry : RegistryEntry α) : List (RegistryEntry α) → List (RegistryEntry α)
  | [] => [entry]
  | e :: rest => if e.name == entry.name then entry :: rest else e :: insertEntry entry rest

/-- Registers a function and gives its entry. -/
def register (r : Registry α) (name : String) (function : α) (wantsParams : Bool) :
    Except Fault (RegistryEntry α × Registry α) :=
  let key := normalizeName name
  if key.isEmpty then .error (Fault.value "function name must not be empty")
  else
    let entry : RegistryEntry α := ⟨key, function, wantsParams⟩
    .ok (entry, ⟨insertEntry entry r.entries⟩)

/-- The fault of registering a value that is no function. -/
def notCallable (name : String) (v : Value) : Fault :=
  Fault.worded .type (v.shown.map fun shown =>
    "cannot register non-callable " ++ shown ++ " as " ++ Text.quoted name)

/-- Registers the function of one name under another. -/
def addAlias (r : Registry α) (name target : String) :
    Except Fault (RegistryEntry α × Registry α) :=
  match r.lookup target with
  | some entry => r.register name entry.function entry.wantsParams
  | none => .error (Fault.missingKey (.text target))

/-- Removes a name. -/
def unregister (r : Registry α) (name : String) : Except Fault (Registry α) :=
  let key := normalizeName name
  if r.isName key then .ok ⟨r.entries.filter (·.name != key)⟩
  else .error (Fault.missingKey (.text key))

/-- The entry of a name, which has to be registered. -/
def get (r : Registry α) (name : String) : Except Fault (RegistryEntry α) :=
  match r.lookup name with
  | some entry => .ok entry
  | none => .error (Fault.missingKey (.text name))

/-- The number of registered functions. -/
def size (r : Registry α) : Nat := r.entries.length

/-- The registry of a list of functions. -/
def ofList (functions : List (String × α × Bool)) : Except Fault (Registry α) :=
  functions.foldlM (fun r (name, function, wantsParams) =>
    (r.register name function wantsParams).map (·.2)) empty

end Registry

end Sigil
