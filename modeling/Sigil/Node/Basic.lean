/-
# Expressions

The parsed form of a text: literal text, numbers and strings, bare names, and calls of registered
functions.
-/
import Sigil.Value.Basic

namespace Sigil

/-- An expression. -/
inductive Node where
  /-- Literal text. -/
  | text (s : String)
  /-- A number as it is written. -/
  | number (s : String)
  /-- A quoted string with its quotes. -/
  | string (s : String)
  /-- A bare name. -/
  | ident (name : String)
  /-- A call: the name in lower case without sigil, the spelling of the call word, the arguments. -/
  | call (name source : String) (args : List Node)
  /-- A value that a host put in the place of an expression; it cannot be evaluated. -/
  | foreign (v : Value)

instance : Inhabited Node := ⟨.text ""⟩

namespace Node

/-- Literal text. -/
def isText : Node → Bool
  | text _ => true
  | _ => false

end Node

end Sigil
