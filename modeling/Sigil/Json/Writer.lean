/-
# Writing JSON

The JSON text of a value, in a compact style without any blank and in an indented one.  Tuples are
written as arrays; what has no JSON form of its own is written as its plain text.  A mapping is
written with text keys: numbers, truth values and the absent value become the text that stands for
them, other keys are refused.
-/
import Sigil.Value.Show

namespace Sigil.Json

open Sigil.Text

/-- The two styles. -/
inductive Style where
  /-- Without blanks. -/
  | compact
  /-- One item a line, indented by two blanks for each level. -/
  | indented
deriving Repr, DecidableEq

/-- The characters that have an escape of one letter, with that letter. -/
def shortEscape? : Char → Option Char
  | '"' => some '"'
  | '\\' => some '\\'
  | '\n' => some 'n'
  | '\r' => some 'r'
  | '\t' => some 't'
  | '\x08' => some 'b'
  | '\x0c' => some 'f'
  | _ => none

/-- A character as it stands in a JSON string. -/
def stringChar (c : Char) : List Char :=
  match shortEscape? c with
  | some letter => ['\\', letter]
  | none => if c.toNat < 0x20 then '\\' :: 'u' :: hexPadded 4 c.toNat else [c]

/-- The JSON string of a text. -/
def string (s : String) : List Char := '"' :: s.toList.flatMap stringChar ++ ['"']

/-- The JSON number of a float, and the words for values that are none. -/
def number (x : Float) : String :=
  if x.isNaN then "NaN"
  else if Decimal.Binary.isFiniteBits x.toBits then Decimal.ofFloat x
  else if x < 0 then "-Infinity" else "Infinity"

/-- The break before an item at a given level. -/
def Style.lineBreak : Style → Nat → List Char
  | compact, _ => []
  | indented, depth => '\n' :: List.replicate (2 * depth) ' '

/-- The mark between a key and its value. -/
def Style.colon : Style → List Char
  | compact => [':']
  | indented => [':', ' ']

/-- Items between brackets, at a given level. -/
def Style.bracket (style : Style) (depth : Nat) (opening closing : Char)
    (parts : List (List Char)) : List Char :=
  match parts with
  | [] => [opening, closing]
  | first :: rest =>
    opening :: style.lineBreak (depth + 1) ++ first
      ++ rest.flatMap (fun part => ',' :: style.lineBreak (depth + 1) ++ part)
      ++ style.lineBreak depth ++ [closing]

/-- The name of a type of keys that are refused. -/
def Style.typeName : Style → Value → String
  | compact => Value.fullTypeName
  | indented => Value.typeName

/-- The text that stands for a key. -/
def keyText (style : Style) : Value → Except Fault String
  | .text s => .ok s
  | .null => .ok "null"
  | .bool b => .ok (if b then "true" else "false")
  | .int n => showInt n
  | .float x => .ok (number x)
  | v => .error (Fault.type ("keys must be str, int, float, bool or None, not "
      ++ style.typeName v))

mutual

/-- The JSON text of a value at a given level. -/
def renderAt (style : Style) (depth : Nat) : Value → Except Fault (List Char)
  | .null => .ok "null".toList
  | .bool b => .ok (if b then "true".toList else "false".toList)
  | .int n => (showInt n).map (·.toList)
  | .float x => .ok (number x).toList
  | .text s => .ok (string s)
  | .list items => do
    let parts ← renderItems style depth items
    pure (style.bracket depth '[' ']' parts)
  | .tuple items => do
    let parts ← renderItems style depth items
    pure (style.bracket depth '[' ']' parts)
  | .mapping entries => do
    let parts ← renderEntries style depth entries
    pure (style.bracket depth '\x7b' '\x7d' parts)
  | v => (v.plain).map string

/-- The JSON texts of the items of a sequence at a given level. -/
def renderItems (style : Style) (depth : Nat) : List Value → Except Fault (List (List Char))
  | [] => .ok []
  | v :: rest => do
    let part ← renderAt style (depth + 1) v
    let parts ← renderItems style depth rest
    pure (part :: parts)

/-- The JSON texts of the entries of a mapping at a given level. -/
def renderEntries (style : Style) (depth : Nat) :
    List (Value × Value) → Except Fault (List (List Char))
  | [] => .ok []
  | (k, v) :: rest => do
    let key ← keyText style k
    let value ← renderAt style (depth + 1) v
    let parts ← renderEntries style depth rest
    pure ((string key ++ style.colon ++ value) :: parts)

end

/-- The JSON text of a value. -/
def render (style : Style) (v : Value) : Except Fault String :=
  (renderAt style 0 v).map String.ofList

end Sigil.Json
