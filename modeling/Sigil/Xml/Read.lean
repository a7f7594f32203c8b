/-
# Reading XML

The value of an element: a mapping of its attributes, whose names are marked, of its inner elements,
those of one name in a list, and of its text; the text alone if there is nothing else.
-/
import Sigil.Text.Blank
import Sigil.Value.Key
import Sigil.Xml.Markup

namespace Sigil.Xml

/-- The mark in front of the name of an attribute. -/
def attributeMark : Char := '@'

/-- The key of the text beside other entries. -/
def textKey : String := "#text"

/-- An element that has begun. -/
structure Frame where
  /-- Its name. -/
  name : List Char
  /-- The entries so far. -/
  entries : Entries
  /-- The text so far. -/
  text : List Char

/-- The entries with one more value under a key: several values of one key become a list. -/
def addEntry (es : Entries) (key : String) (v : Value) : Entries :=
  match Entries.getText? es key with
  | none => Entries.put es (.text key) v
  | some (.list items) => Entries.put es (.text key) (.list (items ++ [v]))
  | some w => Entries.put es (.text key) (.list [w, v])

/-- An element at its start. -/
def Frame.ofTag (name : List Char) (attributes : List (List Char × List Char)) : Frame :=
  ⟨name, attributes.map fun (k, v) =>
    (.text (String.ofList (attributeMark :: k)), .text (String.ofList v)), []⟩

/-- The value of an element at its end. -/
def Frame.value (f : Frame) : Value :=
  let text := Text.strip f.text
  let v : Value := if text.isEmpty then .null else .text (String.ofList text)
  if f.entries.isEmpty then v
  else if text.isEmpty then .mapping f.entries
  else .mapping (addEntry f.entries textKey v)

/-- The state between two pieces: the open elements from inside to outside, and the outermost one
once it has ended. -/
structure State where
  /-- The open elements. -/
  stack : List Frame
  /-- The name and the value of the outermost element. -/
  root : Option (List Char × Value)
  /-- The document type has been declared. -/
  declared : Bool

/-- The state after the innermost element has ended. -/
def State.close (st : State) : Except Fault State :=
  match st.stack with
  | [] => .error malformed
  | [f] => .ok { st with stack := [], root := some (f.name, f.value) }
  | f :: g :: outer =>
    .ok { st with
      stack := { g with entries := addEntry g.entries (String.ofList f.name) f.value } :: outer }

/-- The state after text, which outside elements has to be white space that is not marked. -/
def State.addText (st : State) (s : List Char) (marked : Bool) : Except Fault State :=
  match st.stack with
  | f :: outer => .ok { st with stack := { f with text := f.text ++ s } :: outer }
  | [] => if !marked && s.all isSpace then .ok st else .error malformed

/-- The state after a piece. -/
def State.step (st : State) : Piece → Except Fault State
  | .text s => st.addText s false
  | .marked s => st.addText s true
  | .start n as empty =>
    if st.stack.isEmpty && st.root.isSome then .error malformed
    else
      let st := { st with stack := Frame.ofTag n as :: st.stack }
      if empty then st.close else .ok st
  | .finish n => if (st.stack.head?.map (·.name)) == some n then st.close else .error malformed
  | .ignored => .ok st
  | .documentType =>
    if st.stack.isEmpty && st.root.isNone && !st.declared then .ok { st with declared := true }
    else .error malformed

/-- The value of an XML document. -/
def read (text : String) : Except Fault Value := do
  let ps ← pieces text.toList
  let st ← ps.foldlM State.step ⟨[], none, false⟩
  match st.stack, st.root with
  | [], some (n, v) => pure (.mapping [(.text (String.ofList n), v)])
  | _, _ => .error malformed

end Sigil.Xml
