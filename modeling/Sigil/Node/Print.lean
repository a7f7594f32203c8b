/-
# Printing expressions

Two forms of an expression: the source text that parses to it, in which arguments are separated by a
comma and a blank, and the form that shows its structure.
-/
import Sigil.Node.Basic
import Sigil.Token.Basic
import Sigil.Value.Source

namespace Sigil

namespace Node

mutual

/-- The source text of an expression. -/
def print (width : Int) : Node → Except Fault String
  | text s => .ok s
  | number s => .ok s
  | string s => .ok s
  | ident name => .ok name
  | call name source args => do
    let parts ← printAll width args
    let word := if source.isEmpty then "@" ++ name else source
    pure (word ++ "(" ++ joinWith ", " parts ++ ")")
  | foreign v => v.source width

/-- The source texts of several expressions. -/
def printAll (width : Int) : List Node → Except Fault (List String)
  | [] => .ok []
  | node :: rest => do
    let part ← print width node
    let parts ← printAll width rest
    pure (part :: parts)

end

mutual

/-- The structure of an expression. -/
def shown : Node → Except Fault String
  | text s => .ok ("Text(text=" ++ Text.quoted s ++ ")")
  | number s => .ok ("NumberLiteral(text=" ++ Text.quoted s ++ ")")
  | string s => .ok ("StringLiteral(text=" ++ Text.quoted s ++ ")")
  | ident name => .ok ("Identifier(name=" ++ Text.quoted name ++ ")")
  | call name source args => do
    let parts ← shownAll args
    let tuple := match parts with
      | [part] => "(" ++ part ++ ",)"
      | _ => "(" ++ joinWith ", " parts ++ ")"
    pure ("Call(name=" ++ Text.quoted name ++ ", args=" ++ tuple ++ ", source="
      ++ Text.quoted source ++ ")")
  | foreign v => v.shown

/-- The structures of several expressions. -/
def shownAll : List Node → Except Fault (List String)
  | [] => .ok []
  | node :: rest => do
    let part ← shown node
    let parts ← shownAll rest
    pure (part :: parts)

end

/-- The source text of a list of expressions. -/
def printNodes (nodes : List Node) : Except Fault String :=
  (printAll defaultWidth nodes).map (joinWith "")

/-- The type of an expression. -/
def typeName : Node → String
  | text _ => "Text"
  | number _ => "NumberLiteral"
  | string _ => "StringLiteral"
  | ident _ => "Identifier"
  | call .. => "Call"
  | foreign v => v.typeName

/-- An expression as an object of the host. -/
def toObject (node : Node) : Except Fault HostObject := do
  let text ← node.shown
  let source ← node.print defaultWidth
  pure ⟨node.typeName, text, source⟩

end Node

/-- A token as messages show it. -/
def Token.shown (t : Token) : String :=
  "Token(" ++ Text.quoted t.kind.name ++ ", " ++ Text.quoted t.text ++ ")"

/-- A token as an object of the host. -/
def Token.toObject (t : Token) : HostObject := ⟨"Token", t.shown, t.shown⟩

end Sigil
