/-
# Reading YAML

The value of a document.  A scalar is read by its kind.  The entries of a mapping that are merged
from other mappings come before its own, so that its own win; of several merged mappings the first
wins.
-/
import Sigil.Bytes.Base64
import Sigil.Decimal.Reading
import Sigil.Value.Key
import Sigil.Value.Show
import Sigil.Yaml.Node

namespace Sigil.Yaml

/-- The text that shows why digits are no integer. -/
def notInteger (base : Nat) (s : List Char) : Fault :=
  Fault.value ("invalid literal for int() with base " ++ Decimal.ofInt base ++ ": "
    ++ Text.quoted (String.ofList s))

/-- The digit belongs to a base. -/
def digitOf? (base : Nat) (c : Char) : Option Nat := (Text.hexValue? c).filter (· < base)

/-- The number that digits in a base stand for. -/
def basedNumber (base : Nat) (s : List Char) : Except Fault Int :=
  if s.isEmpty || s.any (fun c => (digitOf? base c).isNone) then .error (notInteger base s)
  else .ok (s.foldl (fun n c => base * n + (digitOf? base c).getD 0) 0 : Nat)

/-- The number that digits in base ten stand for. -/
def decimalNumber (s : List Char) : Except Fault Int :=
  (Decimal.readInt (String.ofList s)).mapError (·.fault)

/-- The number that numbers in sixtieths stand for. -/
def sixtieths (ns : List Int) : Int := ns.foldl (fun total n => 60 * total + n) 0

/-- The integer of a scalar without its sign. -/
def unsignedInt (s : List Char) : Except Fault Int :=
  match s with
  | ['0'] => .ok 0
  | '0' :: 'b' :: rest => basedNumber 2 rest
  | '0' :: 'x' :: rest => basedNumber 16 rest
  | '0' :: _ => basedNumber 8 s
  | s => if s.contains ':' then ((Text.splitOnChar ':' s).mapM decimalNumber).map sixtieths
    else decimalNumber s

/-- The fault of a scalar that has no first character. -/
def noCharacter : Fault := Fault.index "string index out of range"

/-- The integer of a scalar. -/
def intOf (s : List Char) : Except Fault Int :=
  match s.filter (· != '_') with
  | [] => .error noCharacter
  | '-' :: rest => if rest.isEmpty then .error noCharacter else (unsignedInt rest).map (- ·)
  | '+' :: rest => if rest.isEmpty then .error noCharacter else unsignedInt rest
  | body => unsignedInt body

/-- The float that digits stand for. -/
def decimalFloat (s : List Char) : Except Fault Float :=
  (Decimal.readFloat (String.ofList s)).mapError (·.fault)

/-- The float that numbers in sixtieths stand for, the last one first. -/
def floatSixtieths (unit : Nat) (total : Float) : List Float → Float
  | [] => total
  | x :: rest => floatSixtieths (unit * 60) (total + x * Float.ofNat unit) rest

/-- The float of a scalar without its sign. -/
def unsignedFloat (s : List Char) : Except Fault Float :=
  if s == ".inf".toList then .ok (Float.ofBits 0x7FF0000000000000)
  else if s == ".nan".toList then .ok (Float.ofBits 0x7FF8000000000000)
  else if s.contains ':' then
    ((Text.splitOnChar ':' s).mapM decimalFloat).map fun xs => floatSixtieths 1 0 xs.reverse
  else decimalFloat s

/-- The float of a scalar. -/
def floatOf (s : List Char) : Except Fault Float :=
  match (s.filter (· != '_')).map Char.toLower with
  | [] => .error noCharacter
  | '-' :: rest => (unsignedFloat rest).map (- ·)
  | '+' :: rest => unsignedFloat rest
  | body => unsignedFloat body

/-- The truth value of a scalar. -/
def boolOf (s : List Char) : Except Fault Bool :=
  let word := String.ofList (s.map Char.toLower)
  match boolWords.lookup word with
  | some b => .ok b
  | none => .error ⟨.key, some (Text.quoted word)⟩

/-- The timestamp of a scalar. -/
def timestampOf (s : List Char) : Except Fault Value :=
  match timestamp? true s with
  | some t => t.value
  | none => .error (Fault.missingOperation "'NoneType' object has no attribute 'groupdict'")

/-- The value of a scalar. -/
def scalarValue (kind : Kind) (s : List Char) : Except Fault Value :=
  match kind with
  | .null => .ok .null
  | .bool => (boolOf s).map .bool
  | .int => (intOf s).map .int
  | .float => (floatOf s).map .float
  | .timestamp => timestampOf s
  | .text => .ok (.text (String.ofList s))
  | .binary =>
    match s.all (·.toNat < 0x80), Bytes.ofBase64? s with
    | true, some b => .ok (.bytes b)
    | _, _ => .error malformed
  | _ => .error malformed

/-- The value of a key, which must be one that can be a key. -/
def keyOf (v : Value) : Except Fault Value :=
  if v.unhashable?.isSome then .error malformed else .ok v

mutual

/-- The value of a node. -/
def valueOf : Node → Except Fault Value
  | .scalar kind s => scalarValue kind s
  | .sequence .sequence items => (itemValues items).map .list
  | .mapping .mapping es => do
    let (merged, own) ← entryValues es
    pure (.mapping (Entries.ofPairs (merged ++ own)))
  | _ => .error malformed

/-- The values of the items of a sequence. -/
def itemValues : List Node → Except Fault (List Value)
  | [] => .ok []
  | n :: rest => do
    let v ← valueOf n
    let vs ← itemValues rest
    pure (v :: vs)

/-- The entries that are merged into a mapping, and its own. -/
def entryValues : List (Node × Node) → Except Fault (Entries × Entries)
  | [] => .ok ([], [])
  | (.scalar .merge _, v) :: rest => do
    let inner ← mergedValues v
    let (merged, own) ← entryValues rest
    pure (inner ++ merged, own)
  | (.scalar .value s, v) :: rest => do
    let v ← valueOf v
    let (merged, own) ← entryValues rest
    pure (merged, (.text (String.ofList s), v) :: own)
  | (k, v) :: rest => do
    let k ← valueOf k
    let k ← keyOf k
    let v ← valueOf v
    let (merged, own) ← entryValues rest
    pure (merged, (k, v) :: own)

/-- The entries that a node gives to a mapping that it is merged into: those of a mapping, or of a
sequence of mappings, the last of them first. -/
def mergedValues : Node → Except Fault Entries
  | .mapping _ es => do
    let (merged, own) ← entryValues es
    pure (merged ++ own)
  | .sequence _ items => mergedItems items
  | .scalar .. => .error malformed

/-- The entries that the mappings of a sequence give to a mapping that it is merged into. -/
def mergedItems : List Node → Except Fault Entries
  | [] => .ok []
  | .mapping _ es :: rest => do
    let (merged, own) ← entryValues es
    let more ← mergedItems rest
    pure (more ++ merged ++ own)
  | _ :: _ => .error malformed

end

/-- The value of a YAML document; an empty one stands for the absent value. -/
def read (text : String) : Except Fault Value := do
  let ls ← lexemes text.toList
  match ← document? ls with
  | some n => valueOf n
  | none => pure .null

end Sigil.Yaml
