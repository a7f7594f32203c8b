/-
# The text of a value

The text a value contributes to the text it is embedded in: nothing for the absent value, words for
truth values, no fraction for floats that are integers, and compact JSON for sequences and mappings.
-/
import Sigil.Json.Writer
import Sigil.Value.Key

namespace Sigil.Value

/-- The text of a value within a text. -/
def toText : Value → Except Fault String
  | .text s => .ok s
  | .null => .ok ""
  | .bool b => .ok (if b then "true" else "false")
  | .int n => showInt n
  | .float x =>
    match integerOfFloat? x with
    | some n => showInt n
    | none => .ok (Decimal.ofFloat x)
  | .list items => Json.render .compact (.list items)
  | .tuple items => Json.render .compact (.tuple items)
  | .mapping entries => Json.render .compact (.mapping entries)
  | v => v.plain

/-- The number of bytes of a value's compact JSON text in UTF-8, which a text without surrogates
has. -/
def compactSize (v : Value) : Except Fault Nat := (Json.render .compact v).map (·.utf8ByteSize)

end Sigil.Value
