/-
# Values

The data that expressions are evaluated to and that templates are made of: scalars, sequences and
mappings, dates and times, bytes, and opaque objects of the host.  A mapping is the list of its
entries in the order in which their keys first arrived.  A text consists of characters, none of
which is a lone surrogate, so every text has bytes in UTF-8.
-/
import Sigil.Moment.Calendar

namespace Sigil

/-- An object of the host: the library knows it only by the texts it is shown as. -/
structure HostObject where
  /-- The name of its type. -/
  typeName : String
  /-- The text that shows it in messages. -/
  text : String
  /-- The text that shows it as source of an expression. -/
  source : String
deriving Repr, DecidableEq

/-- A value. -/
inductive Value where
  /-- The absent value. -/
  | null
  /-- A truth value. -/
  | bool (b : Bool)
  /-- An integer of any size. -/
  | int (n : Int)
  /-- A 64-bit float. -/
  | float (x : Float)
  /-- A complex number. -/
  | complex (re im : Float)
  /-- A text. -/
  | text (s : String)
  /-- A run of bytes. -/
  | bytes (b : List UInt8)
  /-- A sequence. -/
  | list (items : List Value)
  /-- A sequence that may be a key. -/
  | tuple (items : List Value)
  /-- A mapping. -/
  | mapping (entries : List (Value × Value))
  /-- A date with a time of day, and its offset from universal time in microseconds, if any. -/
  | moment (m : Moment) (offset : Option Int)
  /-- A date. -/
  | day (d : Day)
  /-- A time of day. -/
  | clock (c : Clock)
  /-- An object of the host. -/
  | object (o : HostObject)

instance : Inhabited Value := ⟨.null⟩

/-- The entries of a mapping, in the order in which their keys first arrived. -/
abbrev Entries := List (Value × Value)

namespace Value

/-- The name of a value's type in messages. -/
def typeName : Value → String
  | null => "NoneType"
  | bool _ => "bool"
  | int _ => "int"
  | float _ => "float"
  | complex .. => "complex"
  | text _ => "str"
  | bytes _ => "bytes"
  | list _ => "list"
  | tuple _ => "tuple"
  | mapping _ => "dict"
  | moment .. => "datetime"
  | day _ => "date"
  | clock _ => "time"
  | object o => o.typeName

/-- The name of a value's type with the module that it belongs to, as messages about operations that
a value does not offer give it. -/
def fullTypeName : Value → String
  | moment .. => "datetime.datetime"
  | day _ => "datetime.date"
  | clock _ => "datetime.time"
  | v => v.typeName

/-- Everything counts as true except the absent value, `false`, zeros and what is empty. -/
def isTruthy : Value → Bool
  | null => false
  | bool b => b
  | int n => n != 0
  | float x => x != 0
  | complex re im => re != 0 || im != 0
  | text s => !s.isEmpty
  | bytes b => !b.isEmpty
  | list items => !items.isEmpty
  | tuple items => !items.isEmpty
  | mapping entries => !entries.isEmpty
  | moment .. => true
  | day _ => true
  | clock _ => true
  | object _ => true

/-- The entries, if the value is a mapping. -/
def entries? : Value → Option Entries
  | mapping entries => some entries
  | _ => none

/-- The items, if the value is a sequence. -/
def items? : Value → Option (List Value)
  | list items => some items
  | tuple items => some items
  | _ => none

/-- The absent value or the empty text. -/
def isBlank : Value → Bool
  | null => true
  | text s => s.isEmpty
  | _ => false

end Value

end Sigil
