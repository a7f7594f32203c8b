/-
# Writing TOML

The document of a mapping: first its own keys, then a section for each table, level by level, with
the arrays of tables of a section directly behind its keys.  Absent values are left out.
-/
import Sigil.Decimal.Notation
import Sigil.Text.Search
import Sigil.Value.Iterate
import Sigil.Value.Weight

namespace Sigil.Toml

open Sigil.Text

/-- The number of backslashes at the end of a text that count: the first character of the text does
not. -/
def trailingBackslashes (s : List Char) : Nat :=
  min (s.reverse.takeWhile (· == '\\')).length (s.length - 1)

/-- Two parts of a shown text that were parted by a code of two digits, joined again: behind an odd
number of backslashes the code becomes one of four digits. -/
def joinCode (a b : List Char) : Except Fault (List Char) :=
  let s := replaceAll ['\\', '\\'] ['\\'] a
  match s.getLast? with
  | none => .error (Fault.index "string index out of range")
  | some last =>
    let plain := (last != '\\') != (trailingBackslashes s % 2 == 1)
    .ok (s ++ (if plain then ['x'] else ['u', '0', '0']) ++ b)

/-- All parts joined; an empty first part is dropped. -/
def joinCodes (first : List Char) : List (List Char) → Except Fault (List Char)
  | [] => .ok first
  | next :: rest =>
    if first.isEmpty then
      match rest with
      | [] => if next.isEmpty then .error (Fault.index "string index out of range")
        else .error (Fault.index "list index out of range")
      | b :: rest => do
        let s ← joinCode next b
        joinCodes s rest
    else do
      let s ← joinCode first next
      joinCodes s rest

/-- The parts of a text between the places where a code of two digits begins, where `skip`
characters belong to one already passed. -/
def splitCodes : Nat → List Char → List (List Char)
  | _, [] => [[]]
  | skip + 1, _ :: rest => splitCodes skip rest
  | 0, c :: rest =>
    if c == '\\' && rest.head? == some 'x' then [] :: splitCodes 1 rest
    else match splitCodes 0 rest with
      | [] => [[c]]
      | part :: parts => (c :: part) :: parts

/-- The inside of a shown text: single quotes lose their escape, double quotes gain one. -/
def unquote (s : List Char) : List Char :=
  let inner := (s.drop 1).dropLast
  match s.head? with
  | some '\'' => replaceAll ['"'] ['\\', '"'] (replaceAll ['\\', '\''] ['\''] inner)
  | some '"' => inner
  | _ => s

/-- The TOML string of the text that shows a value. -/
def stringOf (shown : String) : Except Fault (List Char) :=
  match splitCodes 0 (unquote shown.toList) with
  | first :: rest => (joinCodes first rest).map fun s => '"' :: s ++ ['"']
  | [] => .ok ['"', '"']

/-- The TOML number of a float. -/
def floatText (x : Float) : List Char :=
  let s := (Decimal.ofFloat x).toList
  replaceAll "e-0".toList "e-".toList (replaceAll "e+0".toList "e+".toList s)

/-- The written form of a moment, with a letter for an offset of zero. -/
def momentText (m : Moment) (offset : Option Int) : List Char :=
  let zone := match offset with
    | some 0 => "Z"
    | some o => isoOffset o
    | none => ""
  (m.iso "T" ++ zone).toList

/-- Items in an array. -/
def arrayText (items : List (List Char)) : List Char :=
  '[' :: items.flatMap (fun s => ' ' :: s ++ [',']) ++ [']']

/-- The TOML text of a value that is no sequence. -/
def scalarText : Value → Except Fault (List Char)
  | .bool b => .ok (if b then "true".toList else "false".toList)
  | .int n => (showInt n).map (·.toList)
  | .float x => .ok (floatText x)
  | .moment m offset => .ok (momentText m offset)
  | .day d => .ok d.iso.toList
  | .clock c => .ok c.iso.toList
  | v => v.shown.bind stringOf

mutual

/-- The TOML text of a value: a mapping inside an array gives its keys, bytes give their numbers. -/
def valueText : Value → Except Fault (List Char)
  | .list items => (itemTexts items).map arrayText
  | .tuple items => (itemTexts items).map arrayText
  | .mapping entries => (keyTexts entries).map arrayText
  | .bytes b => .ok (arrayText (b.map fun n => (Decimal.ofInt n.toNat).toList))
  | v => scalarText v

/-- The TOML texts of items. -/
def itemTexts : List Value → Except Fault (List (List Char))
  | [] => .ok []
  | v :: rest => do
    let s ← valueText v
    let more ← itemTexts rest
    pure (s :: more)

/-- The TOML texts of keys. -/
def keyTexts : List (Value × Value) → Except Fault (List (List Char))
  | [] => .ok []
  | (k, _) :: rest => do
    let s ← valueText k
    let more ← keyTexts rest
    pure (s :: more)

end

/-- The text needs no quotes as a key; a line break at its end does not count. -/
def isBareKey (s : List Char) : Bool :=
  let line := if s.getLast? == some '\n' then s.dropLast else s
  !line.isEmpty && line.all fun c => c.isAlphanum || c == '-' || c == '_'

/-- A key as it is written. -/
def keyText (k : String) : Except Fault (List Char) :=
  if isBareKey k.toList then .ok k.toList else stringOf (quoted k)

/-- The value is a mapping. -/
def isTable : Value → Bool
  | .mapping _ => true
  | _ => false

/-- The value is an array in which there is a table. -/
def isTableArray : Value → Bool
  | .list items => items.any isTable
  | .tuple items => items.any isTable
  | _ => false

/-- A path followed by a key. -/
def join (path key : List Char) : List Char := if path.isEmpty then key else path ++ '.' :: key

/-- The tables of a section with the keys behind the path of the section. -/
abbrev Tables := List (List Char × Value)

/-- The last table under each key, in the place of the first. -/
def putTable (key : List Char) (v : Value) : Tables → Tables
  | [] => [(key, v)]
  | (k, w) :: rest => if k == key then (k, v) :: rest else (k, w) :: putTable key v rest

/-- What a section gives: its text, that of its arrays of tables, and its tables. -/
structure Section where
  /-- The lines of its keys. -/
  lines : List Char
  /-- The text of its arrays of tables. -/
  arrays : List Char
  /-- Its tables. -/
  tables : Tables

/-- The text of a section without its tables. -/
def Section.text (s : Section) : List Char := s.lines ++ s.arrays

/-- A line that sets a key. -/
def assignment (key value : List Char) : List Char := key ++ " = ".toList ++ value ++ ['\n']

/-- The items that a section has to be a mapping for. -/
def sectionKeys (v : Value) : Except Fault (List String) :=
  match v with
  | .list (_ :: _) => .error (Fault.type "list indices must be integers or slices, not str")
  | .tuple (_ :: _) => .error (Fault.type "list indices must be integers or slices, not str")
  | .bytes (_ :: _) => .error (Fault.type "byte indices must be integers or slices, not str")
  | .text s =>
    if s.isEmpty then .ok [] else .error (Fault.type "string indices must be integers, not 'str'")
  | v => do
    let keys ← v.iterate
    keys.mapM (·.plain)

/-- The value of a section under the text of a key. -/
def sectionValue (v : Value) (key : String) : Except Fault Value :=
  match (v.entries?).bind fun es => Entries.getText? es key with
  | some x => .ok x
  | none => .error (Fault.missingKey (.text key))

/-- The line break and the header of a table. -/
def header (opening path closing : List Char) : List Char := opening ++ path ++ closing ++ ['\n']

mutual

/-- A section, with at most `fuel` nested steps. -/
def sectionOf : Nat → List Char → Value → Except Fault Section
  | 0, _, _ => .ok ⟨[], [], []⟩
  | fuel + 1, path, v => do
    let keys ← sectionKeys v
    sectionEntries fuel path v ⟨[], [], []⟩ keys

/-- A section extended by the entries under some keys. -/
def sectionEntries : Nat → List Char → Value → Section → List String → Except Fault Section
  | 0, _, _, s, _ => .ok s
  | _, _, _, s, [] => .ok s
  | fuel + 1, path, v, s, k :: keys => do
    let key ← keyText k
    let x ← sectionValue v k
    if isTable x then
      sectionEntries fuel path v { s with tables := putTable key x s.tables } keys
    else if isTableArray x then do
      let text ← tableArray fuel (join path key) ((x.items?).getD [])
      sectionEntries fuel path v { s with arrays := s.arrays ++ text } keys
    else match x with
      | .null => sectionEntries fuel path v s keys
      | x => do
        let text ← valueText x
        sectionEntries fuel path v { s with lines := s.lines ++ assignment key text } keys

/-- The text of an array of tables. -/
def tableArray : Nat → List Char → List Value → Except Fault (List Char)
  | 0, _, _ => .ok []
  | _, _, [] => .ok []
  | fuel + 1, path, v :: rest => do
    let s ← sectionOf fuel path v
    let inner ← innerTables fuel path s.tables
    let text := s.text
    let body := if text.head? == some '[' then '\n' :: text else text ++ ['\n']
    let more ← tableArray fuel path rest
    pure (header ['[', '['] path [']', ']'] ++ body ++ inner ++ more)

/-- The texts of the tables within a table of an array, level by level. -/
def innerTables : Nat → List Char → Tables → Except Fault (List Char)
  | 0, _, _ => .ok []
  | _, _, [] => .ok []
  | fuel + 1, path, tables => do
    let (text, next) ← innerLevel fuel path tables
    let more ← innerTables fuel path next
    pure (text ++ more)

/-- The texts of the tables of one level, and the tables of the next. -/
def innerLevel : Nat → List Char → Tables → Except Fault (List Char × Tables)
  | 0, _, _ => .ok ([], [])
  | _, _, [] => .ok ([], [])
  | fuel + 1, path, (key, v) :: rest => do
    let s ← sectionOf fuel (join path key) v
    let own := if s.text.isEmpty then [] else header ['['] (join path key) [']'] ++ s.text
    let (text, next) ← innerLevel fuel path rest
    pure (own ++ text, s.tables.map (fun (k, w) => (join key k, w)) ++ next)

end

/-- The text so far with an empty line at its end, unless there is one. -/
def withEmptyLine (s : List Char) : List Char :=
  if s.isEmpty || s.drop (s.length - 2) == ['\n', '\n'] then s else s ++ ['\n']

/-- The document after the tables of one level, and the tables of the next. -/
def level (fuel : Nat) (out : List Char) : Tables → Except Fault (List Char × Tables)
  | [] => .ok (out, [])
  | (path, v) :: rest => do
    let s ← sectionOf fuel path v
    let out :=
      if s.text.isEmpty && !s.tables.isEmpty then out
      else withEmptyLine out ++ header ['['] path [']'] ++ s.text
    let (out, next) ← level fuel out rest
    pure (out, s.tables.map (fun (k, w) => (join path k, w)) ++ next)

/-- The document after the tables of all levels. -/
def levels (fuel : Nat) : Nat → List Char → Tables → Except Fault (List Char)
  | 0, out, _ => .ok out
  | _, out, [] => .ok out
  | steps + 1, out, tables => do
    let (out, next) ← level fuel out tables
    levels fuel steps out next

/-- The TOML document of a value.  No chain of nested steps is longer than five for each value that
it consists of. -/
def render (v : Value) : Except Fault String := do
  let fuel := 5 * v.weight + 5
  let s ← sectionOf fuel [] v
  let out ← levels fuel fuel s.text s.tables
  pure (String.ofList out)

end Sigil.Toml
