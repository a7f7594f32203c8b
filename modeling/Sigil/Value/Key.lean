/-
# Keys

When two values are the same key of a mapping.  Numbers are the same key if they are equal as
numbers, whatever their type, truth values counting as zero and one.  The identity of a key is a
list of atoms: one for a scalar, and for a tuple those of its items between two marks.
-/
import Sigil.Decimal.Binary
import Sigil.Value.Basic

namespace Sigil

/-- The identity of a scalar, and the marks around the items of a tuple. -/
inductive KeyAtom where
  /-- The absent value. -/
  | null
  /-- A number that is an integer. -/
  | integer (n : Int)
  /-- The bits of a float that is no integer. -/
  | float (bits : UInt64)
  /-- The bits of the parts of a complex number. -/
  | complex (re im : UInt64)
  /-- A text. -/
  | text (s : String)
  /-- A run of bytes. -/
  | bytes (b : List UInt8)
  /-- A date and time. -/
  | moment (m : Moment) (offset : Option Int)
  /-- A date. -/
  | day (d : Day)
  /-- A time of day. -/
  | clock (c : Clock)
  /-- An object of the host. -/
  | object (o : HostObject)
  /-- The start of a sequence. -/
  | opening
  /-- The end of a sequence. -/
  | closing
deriving DecidableEq

/-- The integer that a float is, if it is one. -/
def integerOfFloat? (x : Float) : Option Int :=
  match Decimal.Binary.ofFloat? x with
  | some d => if d.isInteger then some d.truncate else none
  | none => none

/-- The identity of a float. -/
def KeyAtom.ofFloat (x : Float) : KeyAtom :=
  match integerOfFloat? x with
  | some n => integer n
  | none => float x.toBits

namespace Value

mutual

/-- The identity of a value as a key. -/
def key : Value → List KeyAtom
  | null => [.null]
  | bool b => [.integer (if b then 1 else 0)]
  | int n => [.integer n]
  | float x => [.ofFloat x]
  | complex re im => if im == 0 then [.ofFloat re] else [.complex re.toBits im.toBits]
  | text s => [.text s]
  | bytes b => [.bytes b]
  | list items => .opening :: keys items
  | tuple items => .opening :: keys items
  | mapping _ => [.opening]
  | moment m offset => [.moment m offset]
  | day d => [.day d]
  | clock c => [.clock c]
  | object o => [.object o]

/-- The identities of the items of a sequence, up to its end. -/
def keys : List Value → List KeyAtom
  | [] => [.closing]
  | v :: rest => key v ++ keys rest

end

mutual

/-- The name of the type that keeps a value from being a key: sequences that can grow and mappings
are no keys, nor is a tuple that holds one. -/
def unhashable? : Value → Option String
  | list _ => some "list"
  | mapping _ => some "dict"
  | tuple items => firstUnhashable items
  | _ => none

/-- The first such name among the items of a sequence. -/
def firstUnhashable : List Value → Option String
  | [] => none
  | v :: rest => (unhashable? v).or (firstUnhashable rest)

end

end Value

namespace Entries

/-- The value under a key. -/
def get? (entries : Entries) (key : Value) : Option Value :=
  (entries.find? fun e => e.1.key == key.key).map (·.2)

/-- The value under a text key. -/
def getText? (entries : Entries) (key : String) : Option Value := get? entries (.text key)

/-- The presence of a key. -/
def hasKey (entries : Entries) (key : Value) : Bool := (get? entries key).isSome

/-- Binds a key: in its place if it is present, at the end if it is not. -/
def put : Entries → Value → Value → Entries
  | [], key, value => [(key, value)]
  | e :: rest, key, value =>
    if e.1.key == key.key then (e.1, value) :: rest else e :: put rest key value

/-- Binds each key of `more` in turn. -/
def update (entries more : Entries) : Entries :=
  more.foldl (fun acc e => put acc e.1 e.2) entries

/-- The entries given by a list of pairs: a repeated key keeps its first place and its last
value. -/
def ofPairs (pairs : List (Value × Value)) : Entries := update [] pairs

/-- The keys, in order. -/
def keys (entries : Entries) : List Value := entries.map (·.1)

end Entries

end Sigil
