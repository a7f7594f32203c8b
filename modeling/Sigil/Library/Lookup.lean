/-
# Looking up parameters and the environment

The value of a parameter by its key, optionally quoted or escaped.  A key that is no parameter may
stand for an environment variable; a key without value gives the empty text.
-/
import Sigil.Evaluate
import Sigil.Library.Escapes
import Sigil.Value.Iterate

namespace Sigil.Library

/-- The key that an argument stands for: a number stands for its text. -/
def lookupKey (v : Value) : Except Fault Value :=
  match v with
  | .int _ => (v.toText).map .text
  | .float _ => (v.toText).map .text
  | v => .ok v

/-- The value under a key. -/
def lookupParam (h : Host) (params : Entries) (v : Value) : Result := do
  let key ← lookupKey v
  let hashable ← key.asKey
  match Entries.get? params hashable with
  | some found => pure (if found.isBlank then .text "" else found)
  | none =>
    match key with
    | .text name => pure (.text (environmentValue h name))
    | _ => pure (.text "")

/-- The quote that an argument stands for: an escaped single quote stands for the quote. -/
def quoteMark (v : Value) : Value :=
  match v with
  | .text s => if s == "\\'" then .text "'" else v
  | v => v

/-- A value between two quotes, if a quote is given. -/
def quotedResult (v mark : Value) : Result :=
  if mark.isTruthy then do
    let q ← (quoteMark mark).plain
    let s ← v.toText
    pure (.text (q ++ s ++ q))
  else .ok v

/-- The value of a parameter, quoted if a quote is given. -/
def getValue (h : Host) (params : Entries) (key mark : Value) : Result := do
  let v ← lookupParam h params key
  quotedResult v mark

/-- The value of an environment variable, quoted if a quote is given. -/
def getEnvironment (h : Host) (name mark : Value) : Result := do
  let n ← name.toText
  quotedResult (.text (h.getenv n)) mark

/-- The functions of this file. -/
def lookups : List Builtin :=
  [⟨⟨"getvalue", ["key"], [.null], false, true⟩, fun h params args => match args with
     | [key, mark] => getValue h params key mark
     | _ => .ok .null⟩,
   ⟨⟨"getvaluequoted", ["key"], [.text "'"], false, true⟩, fun h params args => match args with
     | [key, mark] => getValue h params key mark
     | _ => .ok .null⟩,
   ⟨⟨"getvalueescape", ["key"], [], false, true⟩, fun h params args => match args with
     | [key] => do
       let v ← lookupParam h params key
       escapeValue v
     | _ => .ok .null⟩,
   ⟨⟨"getvalueunescape", ["key"], [], false, true⟩, fun h params args => match args with
     | [key] => do
       let v ← lookupParam h params key
       unescapeValue v
     | _ => .ok .null⟩,
   ⟨⟨"getenv", ["name"], [.null], false, false⟩, fun h _ args => match args with
     | [name, mark] => getEnvironment h name mark
     | _ => .ok .null⟩]

end Sigil.Library
