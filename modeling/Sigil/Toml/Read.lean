/-
# Reading TOML

A document is a sequence of lines that set keys, declare tables or add tables to arrays.  What is
declared once cannot be declared again, and what is written out as a value cannot be extended; both
are kept as lists of paths beside the document so far.
-/
import Sigil.Toml.Lexical
import Sigil.Value.Key

namespace Sigil.Toml

/-- A path of keys. -/
abbrev Path := List String

/-- The entry under the first key of a path is changed; entries that are missing on the way are
created.  In arrays of tables the way leads through the last one, unless `plain`. -/
def modifyAt (plain : Bool) (change : Entries → Except Fault Entries) :
    Path → Entries → Except Fault Entries
  | [], es => change es
  | k :: path, es =>
    match Entries.getText? es k with
    | none => do
      let inner ← modifyAt plain change path []
      pure (Entries.put es (.text k) (.mapping inner))
    | some (.mapping inner) => do
      let inner ← modifyAt plain change path inner
      pure (Entries.put es (.text k) (.mapping inner))
    | some (.list items) =>
      match plain, items.getLast? with
      | false, some (.mapping inner) => do
        let inner ← modifyAt plain change path inner
        pure (Entries.put es (.text k) (.list (items.dropLast ++ [.mapping inner])))
      | _, _ => .error malformed
    | some _ => .error malformed

/-- A new key is bound. -/
def bindKey (key : String) (v : Value) (es : Entries) : Except Fault Entries :=
  if Entries.hasKey es (.text key) then .error malformed else .ok (Entries.put es (.text key) v)

/-- An empty table is added to an array of tables. -/
def appendTable (key : String) (es : Entries) : Except Fault Entries :=
  match Entries.getText? es key with
  | none => .ok (Entries.put es (.text key) (.list [.mapping []]))
  | some (.list items) => .ok (Entries.put es (.text key) (.list (items ++ [.mapping []])))
  | some _ => .error malformed

/-- What is known of the paths of a document. -/
structure Declarations where
  /-- The tables that are declared. -/
  declared : List Path
  /-- The values that cannot be extended. -/
  frozen : List Path
  /-- The tables that dotted keys have made, declared from the next header on. -/
  pending : List Path

namespace Declarations

/-- Nothing is declared. -/
def empty : Declarations := ⟨[], [], []⟩

/-- The table is declared. -/
def isDeclared (d : Declarations) (p : Path) : Bool := d.declared.contains p

/-- The path leads to or into a value that cannot be extended. -/
def isFrozen (d : Declarations) (p : Path) : Bool := d.frozen.any (·.isPrefixOf p)

/-- The table is declared from now on. -/
def declare (d : Declarations) (p : Path) : Declarations := { d with declared := p :: d.declared }

/-- The value cannot be extended from now on. -/
def freeze (d : Declarations) (p : Path) : Declarations := { d with frozen := p :: d.frozen }

/-- The pending tables are declared from now on. -/
def settle (d : Declarations) : Declarations :=
  ⟨d.pending ++ d.declared, d.frozen, []⟩

/-- Nothing is declared at a path and below it. -/
def forget (d : Declarations) (p : Path) : Declarations :=
  ⟨d.declared.filter fun q => !p.isPrefixOf q, d.frozen.filter fun q => !p.isPrefixOf q, d.pending⟩

end Declarations

/-- The character may stand in a key without quotes. -/
def isKeyChar (c : Char) : Bool := c.isAlphanum || c == '-' || c == '_'

/-- A part of a key at the start of a text. -/
def keyPart (s : List Char) : Except Fault (String × List Char) :=
  let bare := s.takeWhile isKeyChar
  if !bare.isEmpty then .ok (String.ofList bare, s.drop bare.length)
  else match s with
    | '\'' :: rest => (literalString rest).map fun (k, rest) => (String.ofList k, rest)
    | '"' :: rest =>
      (basicString false (s.length + 1) rest).map fun (k, rest) => (String.ofList k, rest)
    | _ => .error malformed

/-- The parts of a key at the start of a text, and the text after them and after blanks. -/
def keyParts : Nat → List Char → Except Fault (Path × List Char)
  | 0, _ => .error malformed
  | fuel + 1, s => do
    let (part, rest) ← keyPart s
    match skipBlanks rest with
    | '.' :: rest =>
      let (parts, tail) ← keyParts fuel (skipBlanks rest)
      pure (part :: parts, tail)
    | rest => pure ([part], rest)

/-- A key at the start of a text. -/
def key (s : List Char) : Except Fault (Path × List Char) := keyParts (s.length + 1) s

/-- The value is an array or a table. -/
def isComposite : Value → Bool
  | .list _ => true
  | .mapping _ => true
  | _ => false

/-- All but the last part of a key, and the last. -/
def splitKey (path : Path) : Path × String := (path.dropLast, (path.getLast?).getD "")

/-- A key of a table on one line is bound. -/
def bindInline (es : Entries) (frozen : List Path) (path : Path) (v : Value) :
    Except Fault Entries :=
  let (parent, last) := splitKey path
  if frozen.any (·.isPrefixOf path) then .error malformed
  else modifyAt true (bindKey last v) parent es

mutual

/-- A value at the start of a text. -/
def value : Nat → List Char → Except Fault (Value × List Char)
  | 0, _ => .error malformed
  | fuel + 1, s =>
    match string? s with
    | some r => r.map fun (cs, rest) => (.text (String.ofList cs), rest)
    | none =>
      if "true".toList.isPrefixOf s then .ok (.bool true, s.drop 4)
      else if "false".toList.isPrefixOf s then .ok (.bool false, s.drop 5)
      else match s with
        | '[' :: rest => do
          let (items, tail) ← arrayItems fuel (← skipSpace rest)
          pure (.list items, tail)
        | '\x7b' :: rest =>
          match skipBlanks rest with
          | '\x7d' :: tail => .ok (.mapping [], tail)
          | rest => do
            let (es, tail) ← inlineEntries fuel [] [] rest
            pure (.mapping es, tail)
        | s => plainValue s

/-- The items of an array, up to its end. -/
def arrayItems : Nat → List Char → Except Fault (List Value × List Char)
  | 0, _ => .error malformed
  | _, ']' :: rest => .ok ([], rest)
  | fuel + 1, s => do
    let (v, rest) ← value fuel s
    let rest ← skipSpace rest
    match rest with
    | ']' :: tail => pure ([v], tail)
    | ',' :: rest =>
      let (items, tail) ← arrayItems fuel (← skipSpace rest)
      pure (v :: items, tail)
    | _ => .error malformed

/-- The entries of a table on one line, added to those so far. -/
def inlineEntries : Nat → Entries → List Path → List Char → Except Fault (Entries × List Char)
  | 0, _, _, _ => .error malformed
  | fuel + 1, es, frozen, s => do
    let (path, rest) ← key s
    match rest with
    | '=' :: rest =>
      let (v, rest) ← value fuel (skipBlanks rest)
      let es ← bindInline es frozen path v
      match skipBlanks rest with
      | '\x7d' :: tail => pure (es, tail)
      | ',' :: rest =>
        inlineEntries fuel es (if isComposite v then path :: frozen else frozen) (skipBlanks rest)
      | _ => .error malformed
    | _ => .error malformed

end

/-- The state between two lines. -/
structure State where
  /-- The entries so far. -/
  entries : Entries
  /-- The paths that are declared. -/
  declarations : Declarations
  /-- The table that keys are set in. -/
  header : Path

/-- The proper starts of a path that are not empty. -/
def properStarts (path : Path) : List Path :=
  (List.range (path.length - 1)).map fun n => path.take (n + 1)

/-- The state after a key is set. -/
def State.assign (st : State) (path : Path) (v : Value) : Except Fault State := do
  let (parent, last) := splitKey path
  let inner := (properStarts path).map (st.header ++ ·)
  let d := st.declarations
  if inner.any d.isDeclared || d.isFrozen (st.header ++ parent) then .error malformed
  else
    let entries ← modifyAt false (bindKey last v) (st.header ++ parent) st.entries
    let d := { d with pending := inner ++ d.pending }
    let d := if isComposite v then d.freeze (st.header ++ path) else d
    pure { st with entries := entries, declarations := d }

/-- The state after a table is declared. -/
def State.openTable (st : State) (path : Path) : Except Fault State := do
  let d := st.declarations.settle
  if d.isDeclared path || d.isFrozen path then .error malformed
  else
    let entries ← modifyAt false .ok path st.entries
    pure ⟨entries, d.declare path, path⟩

/-- The state after a table is added to an array. -/
def State.addTable (st : State) (path : Path) : Except Fault State := do
  let (parent, last) := splitKey path
  let d := st.declarations.settle
  if d.isFrozen path then .error malformed
  else
    let entries ← modifyAt false (appendTable last) parent st.entries
    pure ⟨entries, (d.forget path).declare path, path⟩

/-- The state after what a line says, and the text after it. -/
def statement (st : State) (s : List Char) : Except Fault (State × List Char) :=
  match s with
  | '[' :: '[' :: rest => do
    let (path, rest) ← key (skipBlanks rest)
    let st ← st.addTable path
    match rest with
    | ']' :: ']' :: tail => pure (st, tail)
    | _ => .error malformed
  | '[' :: rest => do
    let (path, rest) ← key (skipBlanks rest)
    let st ← st.openTable path
    match rest with
    | ']' :: tail => pure (st, tail)
    | _ => .error malformed
  | '#' :: _ => .ok (st, s)
  | s => do
    let (path, rest) ← key s
    match rest with
    | '=' :: rest =>
      let (v, tail) ← value (2 * s.length + 2) (skipBlanks rest)
      let st ← st.assign path v
      pure (st, tail)
    | _ => .error malformed

/-- The state after all lines. -/
def statements : Nat → State → List Char → Except Fault State
  | 0, st, _ => .ok st
  | fuel + 1, st, s =>
    match skipBlanks s with
    | [] => .ok st
    | '\n' :: rest => statements fuel st rest
    | s => do
      let (st, rest) ← statement st s
      let rest ← skipComment (skipBlanks rest)
      match rest with
      | [] => pure st
      | '\n' :: rest => statements fuel st rest
      | _ => .error malformed

/-- The text with single line breaks for those of two characters. -/
def joinLineBreaks : List Char → List Char
  | '\r' :: '\n' :: rest => '\n' :: joinLineBreaks rest
  | c :: rest => c :: joinLineBreaks rest
  | [] => []

/-- The value of a TOML document. -/
def read (text : String) : Except Fault Value := do
  let s := joinLineBreaks text.toList
  let st ← statements (s.length + 1) ⟨[], Declarations.empty, []⟩ s
  pure (.mapping st.entries)

end Sigil.Toml
