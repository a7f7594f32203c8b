/-
# Writing XML

The document of a mapping with one entry, which is its outermost element.  Entries whose key is
marked are attributes, one key stands for the text, and all others are inner elements, several of
one name for a list.
-/
import Sigil.Bytes.Utf8
import Sigil.Text.Search
import Sigil.Value.Show
import Sigil.Value.Weight
import Sigil.Xml.Read

namespace Sigil.Xml

/-- The declaration at the start of a document. -/
def declaration : String := "<?xml version=\"1.0\" encoding=\"utf-8\"?>\n"

/-- A character of a text as it is written. -/
def textChar (c : Char) : List Char :=
  match c with
  | '&' => "&amp;".toList
  | '<' => "&lt;".toList
  | '>' => "&gt;".toList
  | c => [c]

/-- A text as it is written. -/
def escapeText (s : List Char) : List Char := s.flatMap textChar

/-- A character of the value of an attribute as it is written. -/
def quotedChar (c : Char) : List Char :=
  match c with
  | '\n' => "&#10;".toList
  | '\r' => "&#13;".toList
  | '\t' => "&#9;".toList
  | c => textChar c

/-- The value of an attribute as it is written: between double quotes, or between single ones if it
holds a double quote and no single one. -/
def quoteValue (s : List Char) : List Char :=
  let body := s.flatMap quotedChar
  if !body.contains '"' then '"' :: body ++ ['"']
  else if !body.contains '\'' then '\'' :: body ++ ['\'']
  else '"' :: Text.replaceAll ['"'] "&quot;".toList body ++ ['"']

/-- The parts of an element: attributes, text and inner elements. -/
structure Parts where
  /-- The attributes. -/
  attributes : List (String × String)
  /-- The text. -/
  text : Option Value
  /-- The inner elements. -/
  children : List (String × Value)

/-- Attributes with further ones behind them: an attribute of a name that comes again keeps its
place and has the last of its values. -/
def joinAttributes (own more : List (String × String)) : List (String × String) :=
  own.map (fun (n, t) => (n, (more.lookup n).getD t))
    ++ more.filter (fun a => !own.any (·.1 == a.1))

/-- The attributes that declare name spaces, given by a mapping of their names. -/
def nameSpaces : List (Value × Value) → Except Fault (List (String × String))
  | [] => .ok []
  | (k, v) :: rest => do
    let name ← k.plain
    let text ← v.plain
    let more ← nameSpaces rest
    pure (joinAttributes [(if k.isTruthy then "xmlns:" ++ name else "xmlns", text)] more)

/-- The attributes that a marked entry gives. -/
def attributesOf (name : String) (v : Value) : Except Fault (List (String × String)) :=
  match name == "xmlns", v with
  | true, .mapping es => nameSpaces es
  | _, v => (v.plain).map fun t => [(name, t)]

/-- The text of a key of an element, which has to be one. -/
def elementKey (k : Value) : Except Fault String :=
  match k with
  | .text s => .ok s
  | k => .error (Fault.missingOperation ("'" ++ k.fullTypeName
      ++ "' object has no attribute 'startswith'"))

/-- The parts of an element given by entries. -/
def partsOf : List (Value × Value) → Except Fault Parts
  | [] => .ok ⟨[], none, []⟩
  | (k, v) :: rest =>
    match k with
    | .text s =>
      if s == textKey then do
        let p ← partsOf rest
        pure { p with text := p.text.or (some v) }
      else match s.toList with
        | '@' :: name => do
          let own ← attributesOf (String.ofList name) v
          let p ← partsOf rest
          pure { p with attributes := joinAttributes own p.attributes }
        | _ => do
          let p ← partsOf rest
          pure { p with children := (s, v) :: p.children }
    | k => do
      let s ← elementKey k
      let p ← partsOf rest
      pure { p with children := (s, v) :: p.children }

/-- The start tag of an element. -/
def startText (name : String) (attributes : List (String × String)) : List Char :=
  '<' :: name.toList
    ++ attributes.flatMap (fun (k, v) => ' ' :: k.toList ++ '=' :: quoteValue v.toList) ++ ['>']

/-- The end tag of an element. -/
def endText (name : String) : List Char := '<' :: '/' :: name.toList ++ ['>']

/-- The text inside an element. -/
def innerText (v : Option Value) : Except Fault (List Char) :=
  match v with
  | none => .ok []
  | some (.text s) => .ok (escapeText s.toList)
  | some (.bytes b) => (Bytes.decodeStrict b).map escapeText
  | some v =>
    if v.isTruthy then .error (Fault.type ("decoding to str: need a bytes-like object, "
      ++ v.fullTypeName ++ " found"))
    else .ok []

/-- The entries of an element with a value: a value that is no mapping is its text. -/
def entriesOf (v : Value) : Except Fault (List (Value × Value)) :=
  match v with
  | .null => .ok []
  | .mapping es => .ok es
  | .bool b => .ok [(.text textKey, .text (if b then "true" else "false"))]
  | v => (v.plain).map fun s => [(.text textKey, .text s)]

/-- The values of elements of one name: the items of a list. -/
def valuesOf (v : Value) : List Value :=
  match v with
  | .list items => items
  | .tuple items => items
  | .bytes b => b.map fun n => .int n.toNat
  | v => [v]

/-- Tabs for each level, in a document with lines. -/
def indentation (pretty : Bool) (depth : Nat) : List Char :=
  if pretty then List.replicate depth '\t' else []

/-- A line break, in a document with lines. -/
def lineBreak (pretty : Bool) : List Char := if pretty then ['\n'] else []

mutual

/-- An element with a value. -/
def element (pretty : Bool) : Nat → Nat → String → Value → Except Fault (List Char)
  | 0, _, _, _ => .ok []
  | fuel + 1, depth, name, v => do
    let es ← entriesOf v
    let p ← partsOf es
    let inner ← elements pretty fuel (depth + 1) p.children
    let text ← innerText p.text
    let hasInner := !p.children.isEmpty
    pure (indentation pretty depth ++ startText name p.attributes
      ++ (if hasInner then lineBreak pretty else []) ++ inner ++ text
      ++ (if hasInner then indentation pretty depth else []) ++ endText name
      ++ (if depth == 0 then [] else lineBreak pretty))

/-- Elements with their names and values. -/
def elements (pretty : Bool) : Nat → Nat → List (String × Value) → Except Fault (List Char)
  | 0, _, _ => .ok []
  | _, _, [] => .ok []
  | fuel + 1, depth, (name, v) :: rest => do
    let own ← elementList pretty fuel depth name (valuesOf v)
    let more ← elements pretty fuel depth rest
    pure (own ++ more)

/-- Elements of one name with their values. -/
def elementList (pretty : Bool) : Nat → Nat → String → List Value → Except Fault (List Char)
  | 0, _, _, _ => .ok []
  | _, _, _, [] => .ok []
  | fuel + 1, depth, name, v :: rest => do
    let own ← element pretty fuel depth name v
    let more ← elementList pretty fuel depth name rest
    pure (own ++ more)

end

/-- The name and the value of the outermost element. -/
def rootOf (name : Value) (v : Value) : Except Fault (Value × Value) :=
  match v with
  | .mapping [(k, w)] => .ok (k, w)
  | .mapping _ => .error (Fault.value "Document must have exactly one root.")
  | v => .ok (name, v)

/-- The name of the outermost element. -/
def rootName (k : Value) : Except Fault String :=
  match k with
  | .text n => .ok n
  | k => .error (Fault.type ("can only concatenate str (not \"" ++ k.fullTypeName ++ "\") to str"))

/-- The document of a value under a name for the outermost element, if it does not give one.  No
chain of nested steps is longer than four for each value that it consists of. -/
def render (pretty : Bool) (name v : Value) : Except Fault String := do
  let (k, w) ← rootOf name v
  match valuesOf w with
  | [] => pure declaration
  | first :: rest => do
    -- the keys of its entries are looked at before its own name
    let _ ← (entriesOf first).bind partsOf
    let n ← rootName k
    let text ← element pretty (4 * v.weight + 4) 0 n first
    if rest.isEmpty then pure (declaration ++ String.ofList text)
    else .error (Fault.value "document with multiple roots")

end Sigil.Xml
