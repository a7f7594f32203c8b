/-
# Escapes

Escaping a text for use inside a quoted argument or a script: quotes, backslashes and line ends of
any kind become escapes of two or six characters.  Unescaping turns back all of them but the escaped
backslash.
-/
import Sigil.Library.Function

namespace Sigil.Library

/-- The escape of a character, for the characters that have one. -/
def escapeOf? : Char → Option (List Char)
  | '"' => some ['\\', '"']
  | '\'' => some ['\\', '\'']
  | '\\' => some ['\\', '\\']
  | '\n' => some ['\\', 'n']
  | '\r' => some ['\\', 'r']
  | '\u2028' => some ['\\', 'u', '2', '0', '2', '8']
  | '\u2029' => some ['\\', 'u', '2', '0', '2', '9']
  | _ => none

/-- The escaped text. -/
def escape (s : List Char) : List Char := s.flatMap fun c => (escapeOf? c).getD [c]

/-- The text with its escapes turned back. -/
def unescape : List Char → List Char
  | [] => []
  | '\\' :: '\'' :: rest => '\'' :: unescape rest
  | '\\' :: '"' :: rest => '"' :: unescape rest
  | '\\' :: 'n' :: rest => '\n' :: unescape rest
  | '\\' :: 'r' :: rest => '\r' :: unescape rest
  | '\\' :: 'u' :: '2' :: '0' :: '2' :: '8' :: rest => '\u2028' :: unescape rest
  | '\\' :: 'u' :: '2' :: '0' :: '2' :: '9' :: rest => '\u2029' :: unescape rest
  | c :: rest => c :: unescape rest

/-- The escaped text of a value. -/
def escapeValue (v : Value) : Result := (chars v).map fun s => textValue (escape s)

/-- The text of a value with its escapes turned back. -/
def unescapeValue (v : Value) : Result := (chars v).map fun s => textValue (unescape s)

/-- The functions of this file. -/
def escapes : List Builtin := [unary "escape" "s" escapeValue, unary "unescape" "s" unescapeValue]

end Sigil.Library
