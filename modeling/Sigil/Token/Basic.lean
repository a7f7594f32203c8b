/-
# Tokens

The pieces a text is cut into: words, numbers, single blanks, quoted strings, the call words that
name a registered function, the three structural characters, and a mark for the end.
-/

namespace Sigil

/-- The kinds of token. -/
inductive TokenKind where
  /-- A blank or a word without a meaning of its own. -/
  | text
  /-- A number. -/
  | number
  /-- A quoted string. -/
  | string
  /-- A sigil followed by the name of a registered function. -/
  | call
  /-- An opening parenthesis. -/
  | opening
  /-- A closing parenthesis. -/
  | closing
  /-- A comma. -/
  | comma
  /-- The end of the text. -/
  | ending
  /-- A kind that the scanner does not produce. -/
  | other (name : String)
deriving Repr, DecidableEq

namespace TokenKind

/-- The written name of a kind. -/
def name : TokenKind → String
  | text => "text"
  | number => "number"
  | string => "string"
  | call => "call"
  | opening => "("
  | closing => ")"
  | comma => ","
  | ending => "end"
  | other name => name

/-- The kind with a written name. -/
def ofName (s : String) : TokenKind :=
  if s == "text" then text else if s == "number" then number else if s == "string" then string
  else if s == "call" then call else if s == "(" then opening else if s == ")" then closing
  else if s == "," then comma else if s == "end" then ending else other s

end TokenKind

/-- A piece of a text. -/
structure Token where
  /-- The kind. -/
  kind : TokenKind
  /-- The characters of the piece. -/
  text : String
  /-- The offset of its first character. -/
  position : Nat
deriving Repr, DecidableEq

/-- The four blanks that separate words. -/
def isSeparator (c : Char) : Bool := c == ' ' || c == '\t' || c == '\r' || c == '\n'

/-- A token that is a single blank. -/
def Token.isBlank (t : Token) : Bool :=
  t.kind == .text && (t.text == " " || t.text == "\t" || t.text == "\r" || t.text == "\n")

end Sigil
