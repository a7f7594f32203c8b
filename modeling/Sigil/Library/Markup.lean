/-
# Markup

The characters with a meaning in HTML escaped, and character references turned back.
-/
import Sigil.Html.Escape
import Sigil.Library.Function

namespace Sigil.Library

/-- The text of a value with references for the characters that have a meaning. -/
def escapeMarkup (v : Value) : Result := (chars v).map fun s => textValue (Html.escape s)

/-- The text of a value with its references turned back. -/
def unescapeMarkup (v : Value) : Result := do
  let s ← chars v
  let text ← Html.unescape s
  pure (textValue text)

/-- The functions of this file. -/
def markup : List Builtin :=
  [unary "htmlescape" "s" escapeMarkup, unary "htmlunescape" "s" unescapeMarkup]

end Sigil.Library
