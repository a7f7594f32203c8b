/-
# Writing YAML

The YAML document of a value.  Collections are written by indentation, empty ones in brackets or
braces.  The items of a sequence that is the value of a key are not indented any further.  A key
that is short and has one line stands before its colon; any other has a mark and lines of its own.
-/
import Sigil.Bytes.Base64
import Sigil.Value.Show
import Sigil.Yaml.Kind
import Sigil.Yaml.Style

namespace Sigil.Yaml

/-- Where the next character is written. -/
structure Pen where
  /-- The number of characters on the line so far. -/
  column : Nat
  /-- Nothing or a blank is before. -/
  spaced : Bool
  /-- Only blanks and marks of items, keys and values are on the line so far. -/
  fresh : Bool
deriving Repr, DecidableEq

/-- What is written, and where the next character goes. -/
abbrev Written := List Char × Pen

namespace Pen

/-- The start of a document. -/
def start : Pen := ⟨0, true, true⟩

/-- The indentation of the next item or entry: it begins a line of its own, unless there is room for
it on this one. -/
def indentTo (p : Pen) (indent : Nat) : Written :=
  if !p.fresh || indent < p.column || (p.column == indent && !p.spaced) then
    (newLine indent, ⟨indent, true, true⟩)
  else if p.column < indent then (List.replicate (indent - p.column) ' ', ⟨indent, true, p.fresh⟩)
  else ([], p)

/-- A mark, with a blank before it if there is none. -/
def mark (p : Pen) (s : List Char) (keepsFresh : Bool) : Written :=
  let s := if p.spaced then s else ' ' :: s
  (s, ⟨p.column + s.length, false, p.fresh && keepsFresh⟩)

/-- The colon right behind a key. -/
def colon (p : Pen) : Written := ([':'], ⟨p.column + 1, false, false⟩)

/-- An empty sequence. -/
def emptySequence (p : Pen) : Written := p.mark ['[', ']'] false

/-- An empty mapping. -/
def emptyMapping (p : Pen) : Written := p.mark ['\x7b', '\x7d'] false

/-- A scalar in a style, with a blank before it if there is none. -/
def scalar (p : Pen) (style : Style) (fold : Bool) (indent : Nat) (s : List Char) : Written :=
  let gap := if p.spaced then [] else [' ']
  let (body, column) := style.write fold indent (p.column + gap.length) s
  (gap ++ body, if style == .block then start else ⟨column, false, false⟩)

end Pen

/-- A scalar: its kind and its text. -/
structure Scalar where
  /-- The kind. -/
  kind : Kind
  /-- The text. -/
  text : List Char

namespace Scalar

/-- The text will be read as a scalar of this kind if it is written as it stands. -/
def isBare (s : Scalar) : Bool := Kind.ofPlain s.text == s.kind

/-- The style of a scalar. -/
def style (s : Scalar) (isKey : Bool) : Style :=
  Style.choose s.isBare (s.kind == .binary) isKey s.text

/-- The tag is written: the text alone does not show the kind. -/
def needsTag (s : Scalar) (isKey : Bool) : Bool :=
  if s.style isKey == .plain then false else s.kind != .text

/-- The scalar can stand before its colon as a key. -/
def isShort (s : Scalar) : Bool :=
  !s.text.isEmpty && !isMultiline s.text && s.kind.shortTag.length + s.text.length < 128

/-- A scalar whose further lines are indented. -/
def write (s : Scalar) (isKey : Bool) (indent : Nat) (p : Pen) : Written :=
  let (tag, p) := if s.needsTag isKey then p.mark s.kind.shortTag false else ([], p)
  let (body, p) := p.scalar (s.style isKey) (!isKey) indent s.text
  (tag ++ body, p)

end Scalar

/-- The text of a float: a point stands before an exponent. -/
def floatText (x : Float) : List Char :=
  if x.isNaN then ".nan".toList
  else if Decimal.Binary.isFiniteBits x.toBits then
    let s := (Decimal.ofFloat x).toList
    match s.contains '.', Text.splitAt? 'e' s with
    | false, some (digits, exponent) => digits ++ ".0e".toList ++ exponent
    | _, _ => s
  else if x < 0 then "-.inf".toList else ".inf".toList

/-- Bytes in Base64, in lines of 76 characters. -/
def bytesText (b : List UInt8) : List Char :=
  (Bytes.chunks 57 b).flatMap fun c => Bytes.base64 c ++ ['\n']

/-- The written form of a date and time. -/
def momentText (m : Moment) (offset : Option Int) : List Char :=
  (m.iso " " ++ (match offset with | some o => isoOffset o | none => "")).toList

/-- The value is a sequence or a mapping. -/
def isCollection : Value → Bool
  | .list _ => true
  | .tuple _ => true
  | .mapping _ => true
  | _ => false

/-- The scalar of a value that is no collection. -/
def scalarOf : Value → Except Fault Scalar
  | .null => .ok ⟨.null, "null".toList⟩
  | .bool b => .ok ⟨.bool, (if b then "true" else "false").toList⟩
  | .int n => (showInt n).map fun s => ⟨.int, s.toList⟩
  | .float x => .ok ⟨.float, floatText x⟩
  | .text s => .ok ⟨.text, s.toList⟩
  | .bytes b => .ok ⟨.binary, bytesText b⟩
  | .moment m offset => .ok ⟨.timestamp, momentText m offset⟩
  | .day d => .ok ⟨.timestamp, d.iso.toList⟩
  | _ => .error ⟨.unrepresentable, none⟩

/-- The key can stand before its colon. -/
def isShortKey (k : Value) : Except Fault Bool :=
  if isCollection k then .ok !k.isTruthy else (scalarOf k).map (·.isShort)

/-- The indentation of the further lines of a scalar, or of an inner collection. -/
def deeper (whenOutermost : Nat) (indent : Option Nat) : Nat :=
  (indent.map (· + 2)).getD whenOutermost

/-- Where a node stands: outermost or as an item, as the key or the value of an entry, or as a key
before its colon. -/
inductive Role where
  /-- A whole document or an item. -/
  | item
  /-- A key that is marked as such, or a value. -/
  | entry
  /-- A key before its colon. -/
  | key
deriving Repr, DecidableEq

/-- The indentation of the items of a sequence. -/
def itemIndent (role : Role) (indent : Option Nat) (p : Pen) : Nat :=
  if role == .entry && !p.fresh then indent.getD 0 else deeper 0 indent

mutual

/-- A node within a collection of the given indentation. -/
def writeNode (role : Role) (indent : Option Nat) (p : Pen) : Value → Except Fault Written
  | .list items =>
    if items.isEmpty then .ok p.emptySequence
    else writeItems (itemIndent role indent p) p items
  | .tuple items =>
    if items.isEmpty then .ok p.emptySequence
    else writeItems (itemIndent role indent p) p items
  | .mapping es =>
    if es.isEmpty then .ok p.emptyMapping else writeEntries (deeper 0 indent) p es
  | v => (scalarOf v).map fun s => s.write (role == .key) (deeper 2 indent) p

/-- The items of a sequence. -/
def writeItems (indent : Nat) (p : Pen) : List Value → Except Fault Written
  | [] => .ok ([], p)
  | v :: rest => do
    let (gap, p) := p.indentTo indent
    let (dash, p) := p.mark ['-'] true
    let (item, p) ← writeNode .item (some indent) p v
    let (more, p) ← writeItems indent p rest
    pure (gap ++ dash ++ item ++ more, p)

/-- The entries of a mapping. -/
def writeEntries (indent : Nat) (p : Pen) : List (Value × Value) → Except Fault Written
  | [] => .ok ([], p)
  | (k, v) :: rest => do
    let (gap, p) := p.indentTo indent
    let (key, p) ←
      if ← isShortKey k then do
        let (key, p) ← writeNode .key (some indent) p k
        let (colon, p) := p.colon
        pure (key ++ colon, p)
      else do
        let (question, p) := p.mark ['?'] true
        let (key, p) ← writeNode .entry (some indent) p k
        let (gap, p) := p.indentTo indent
        let (colon, p) := p.mark [':'] true
        pure (question ++ key ++ gap ++ colon, p)
    let (value, p) ← writeNode .entry (some indent) p v
    let (more, p) ← writeEntries indent p rest
    pure (gap ++ key ++ value ++ more, p)

end

/-- A plain scalar that is a whole document is followed by a mark of the end. -/
def needsEnd (v : Value) : Except Fault Bool :=
  if isCollection v then .ok false else (scalarOf v).map fun s => s.style false == .plain

/-- The YAML document of a value. -/
def render (v : Value) : Except Fault String := do
  let (body, p) ← writeNode .item none Pen.start v
  let (gap, _) := p.indentTo 0
  let ending := if ← needsEnd v then "...\n" else ""
  pure (String.ofList (body ++ gap) ++ ending)

end Sigil.Yaml
