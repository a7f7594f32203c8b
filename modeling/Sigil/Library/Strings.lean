/-
# Texts

Trimming, padding, joining, cutting and searching texts.  Arguments that are no texts are taken by
their text.
-/
import Sigil.Library.Function
import Sigil.Text.Blank

namespace Sigil.Library

/-- The text of an argument without single quotes. -/
def unquotedChars (v : Value) : Except Fault (List Char) :=
  (chars v).map fun s => s.filter (· != '\'')

/-- The text without single quotes and without white space where `strip` takes it away. -/
def trimmed (strip : List Char → List Char) (v : Value) : Result :=
  (unquotedChars v).map fun s => textValue (strip s)

/-- The greatest number of characters of a text, and of copies that a text is repeated in. -/
def indexLimit : Nat := 9223372036854775807

/-- A number of copies of a text, one after the other. -/
def copies (n : Nat) (s : List Char) : Except Fault (List Char) :=
  if indexLimit < n then .error (Fault.overflow "cannot fit 'int' into an index-sized integer")
  else if indexLimit < n * s.length then .error (Fault.overflow "repeated string is too long")
  else .ok (List.replicate n s).flatten

/-- The characters that pad a text of some length to a length: whole copies of a fill, cut. -/
def padding (length : Int) (fill s : List Char) : Except Fault (List Char) :=
  if length ≤ s.length || fill.isEmpty then .ok []
  else
    let missing := length.toNat - s.length
    (copies (missing / fill.length + 1) fill).map (·.take missing)

/-- The text padded to a length on one side. -/
def padded (left : Bool) (v length fill : Value) : Result := do
  let s ← unquotedChars v
  let f ← unquotedChars fill
  let n ← integer length
  let p ← padding n f s
  pure (textValue (if left then p ++ s else s ++ p))

/-- The joined texts of the arguments. -/
def concat : List Value → Except Fault (List Char)
  | [] => .ok []
  | v :: rest => do
    let s ← chars v
    let more ← concat rest
    pure (s ++ more)

/-- The texts of the arguments appended to a text, with a separator wherever something stands in
front of it. -/
def appendSeparated (separator : Value) (out : List Char) : List Value → Except Fault (List Char)
  | [] => .ok out
  | v :: rest => do
    let sep ← if out.isEmpty then pure [] else chars separator
    let s ← chars v
    appendSeparated separator (out ++ sep ++ s) rest

/-- The joined texts of all arguments but the first, which separates them. -/
def concatSeparated (args : List Value) : Result :=
  match args with
  | separator :: parts => (appendSeparated separator [] parts).map textValue
  | [] => .ok .null

/-- A text holds another. -/
def includes (v sub : Value) : Result := do
  let t ← chars sub
  let s ← chars v
  pure (.bool (Text.find? t s).isSome)

/-- The position of a text in another, or -1. -/
def indexOf (v sub : Value) : Result := do
  let s ← chars v
  let t ← chars sub
  pure (.int (((Text.find? t s).map Int.ofNat).getD (-1)))

/-- The characters from a start to a stop; a negative stop counts from the end. -/
def slice (start : Nat) (stop : Int) (s : List Char) : List Char :=
  let last := if stop < 0 then s.length - stop.natAbs else stop.toNat
  (s.take last).drop start

/-- The part of a text from a start, which counts from the end if negative, with a length if one
is given. -/
def substring (v start length : Value) : Result := do
  let s ← chars v
  let k ← integer start
  let first : Nat := if k < 0 then s.length - k.natAbs else k.toNat
  if length.isTruthy then do
    let n ← integer length
    pure (textValue (slice first (first + n) s))
  else pure (textValue (s.drop first))

/-- The number of characters. -/
def lengthOf (v : Value) : Result := (chars v).map fun s => .int s.length

/-- The code point of the first character. -/
def charCode (v : Value) : Result := do
  let s ← chars v
  match s with
  | c :: _ => pure (.int c.toNat)
  | [] => .error (Fault.index "string index out of range")

/-- The text of a value between two copies of another. -/
def quote (v mark : Value) : Result := do
  let q ← mark.plain
  let s ← v.toText
  pure (.text (q ++ s ++ q))

/-- The compact JSON text of a value that counts as true. -/
def stringify (v : Value) : Result :=
  if v.isTruthy then (Json.render .compact v).map .text
  else .error (Fault.worded .value (v.shown.map ("stringifying non value variable -> " ++ ·)))

/-- The functions of this file. -/
def strings : List Builtin :=
  [unary "trim" "s" (trimmed Text.strip),
   unary "ltrim" "s" (trimmed Text.stripLeft),
   unary "rtrim" "s" (trimmed Text.stripRight),
   ternary "lpad" ["s", "length"] [.text " "] (padded true),
   ternary "rpad" ["s", "length"] [.text " "] (padded false),
   variadic "concat" [] (fun args => (concat args).map textValue),
   variadic "concatws" ["separator"] concatSeparated,
   unary "upper" "s" (fun v => (chars v).map fun s => textValue (Text.upper s)),
   unary "lower" "s" (fun v => (chars v).map fun s => textValue (Text.lower s)),
   binary "includes" ["s", "sub"] includes,
   binary "indexof" ["s", "sub"] indexOf,
   ternary "substr" ["s", "start"] [.null] substring,
   unary "length" "s" lengthOf,
   unary "charcode" "s" charCode,
   binaryOr "quote" "s" (.text "'") quote,
   unary "stringify" "value" stringify]

end Sigil.Library
