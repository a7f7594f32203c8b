/-
# Options of an interpretation

A limit on the size of the values that are interpreted, and whether the global values are left out.
-/
import Sigil.Number.Basic
import Sigil.Value.Iterate
import Sigil.Value.Text

namespace Sigil

/-- The options of a call of the interpreter. -/
structure Options where
  /-- Values whose compact JSON text has more bytes are left as they are; no limit if it counts as
  false. -/
  maxSize : Value
  /-- Global values are neither merged nor used. -/
  ignoreGlobals : Bool

namespace Options

/-- No limit, and the global values are used. -/
def standard : Options := ⟨.null, false⟩

/-- The first of two keys that a mapping holds. -/
def field (entries : Entries) (key other : String) (default : Value) : Value :=
  ((Entries.getText? entries key).or (Entries.getText? entries other)).getD default

/-- The options that a value stands for. -/
def ofValue : Value → Except Fault Options
  | .null => .ok standard
  | .mapping entries =>
    .ok ⟨field entries "max_size" "maxSize" .null,
      (field entries "ignore_global_values" "ignoreGlobalValues" (.bool false)).isTruthy⟩
  | v => .error (Fault.type ("options must be InterpretOptions or a mapping, not " ++ v.typeName))

/-- A size is greater than the limit. -/
def above (size : Nat) : Value → Except Fault Bool
  | .int n => .ok (decide (n < size))
  | .bool b => .ok (decide ((if b then 1 else 0) < size))
  | .float x => .ok (Number.lt (.float x) (.int size))
  | v => .error (Fault.type ("'>' not supported between instances of 'int' and '" ++ v.fullTypeName
      ++ "'"))

/-- A value is larger than the limit, if there is one. -/
def tooLarge (o : Options) (v : Value) : Except Fault Bool :=
  if o.maxSize.isTruthy then do
    let size ← v.compactSize
    above size o.maxSize
  else .ok false

end Options

end Sigil
