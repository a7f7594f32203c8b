/-
# Values as source text

The form in which a trace of calls shows arguments: texts in single quotes with quotes and
backslashes escaped, cut to a width; the words of the language for truth values and the absent
value; sequences between brackets.
-/
import Sigil.Value.Show

namespace Sigil

/-- A quote or a backslash gets a backslash in front. -/
def escapeQuotes (s : List Char) : List Char :=
  s.flatMap fun c => if c == '\\' || c == '\'' then ['\\', c] else [c]

/-- The characters of a text before an end that is counted from the start or, if negative, from
the end. -/
def takeTo (stop : Int) (s : List Char) : List Char :=
  if 0 ≤ stop then s.take stop.toNat else s.take (s.length - stop.natAbs)

/-- A text in quotes; its escaped form is cut to the width if it is longer. -/
def sourceString (width : Int) (s : String) : String :=
  let text := escapeQuotes s.toList
  let body := if width < text.length then takeTo (width - 3) text ++ "...".toList else text
  String.ofList ('\'' :: body ++ ['\''])

namespace Value

mutual

/-- The source text of a value. -/
def source (width : Int) : Value → Except Fault String
  | null => .ok "none"
  | bool b => .ok (if b then "true" else "false")
  | text s => .ok (sourceString width s)
  | list items => do
    let parts ← sourceItems width items
    pure ("[" ++ joinWith ", " parts ++ "]")
  | tuple items => do
    let parts ← sourceItems width items
    pure ("[" ++ joinWith ", " parts ++ "]")
  | mapping entries => do
    let parts ← sourceEntries width entries
    pure ("\x7b" ++ joinWith ", " parts ++ "\x7d")
  | object o => .ok o.source
  | v => v.shown

/-- The source texts of the items of a sequence. -/
def sourceItems (width : Int) : List Value → Except Fault (List String)
  | [] => .ok []
  | v :: rest => do
    let part ← source width v
    let parts ← sourceItems width rest
    pure (part :: parts)

/-- The source texts of the entries of a mapping. -/
def sourceEntries (width : Int) : List (Value × Value) → Except Fault (List String)
  | [] => .ok []
  | (k, v) :: rest => do
    let key ← source width k
    let value ← source width v
    let parts ← sourceEntries width rest
    pure ((key ++ ": " ++ value) :: parts)

end

end Value

/-- The width to which texts are cut where nothing else is asked for. -/
def defaultWidth : Int := 60

/-- A call of a function with evaluated arguments as source text. -/
def sourceCall (width : Int) (name : String) (args : List Value) : Except Fault String := do
  let parts ← Value.sourceItems width args
  let word := if name.toList.head? == some '@' then name else "@" ++ name
  pure (word ++ "(" ++ joinWith ", " parts ++ ")")

end Sigil
