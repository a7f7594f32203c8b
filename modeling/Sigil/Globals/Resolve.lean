/-
# Resolving global values

An entry is a plain value, or a mapping with a format: a text joined from a sequence, a value that
passes through as it is, or a value whose compact JSON text is run through the interpreter.  Entries
of the last kind are expanded after all others and do not see one another, so within one resolution
they cannot depend on each other in a circle.
-/
import Sigil.Evaluate
import Sigil.Globals.Flatten

namespace Sigil.Globals

/-- What becomes of an entry. -/
inductive Resolution where
  /-- The entry stands for this value. -/
  | value (v : Value)
  /-- The entry stands for what the compact JSON text of this value expands to. -/
  | deferred (v : Value)

/-- The value, if it is known without an expansion. -/
def Resolution.value? : Resolution → Option Value
  | value v => some v
  | deferred _ => none

/-- The first of two values that counts as true; the second if none does. -/
def orElse (a b : Value) : Value := if a.isTruthy then a else b

/-- A text in front of and after the text of each item. -/
def wrapItems (quote : Value) : List Value → Except Fault (List String)
  | [] => .ok []
  | v :: rest => do
    let q ← quote.plain
    let t ← v.toText
    let more ← wrapItems quote rest
    pure ((q ++ t ++ q) :: more)

/-- The texts of the items of a value, each in quotes, with a delimiter between them. -/
def joinText (values quote delimiter : Value) : Except Fault String := do
  match delimiter with
  | .text d => do
    let items ← values.iterate
    let parts ← wrapItems quote items
    pure (joinWith d parts)
  | d =>
    .error (Fault.missingOperation ("'" ++ d.fullTypeName ++ "' object has no attribute 'join'"))

/-- The value of an entry that is a text. -/
def textEntry (entry : Entries) : Except Fault Value :=
  let field (name : String) : Value := (Entries.getText? entry name).getD .null
  let value := field "value"
  match value.items? with
  | some _ =>
    let quote := orElse (field "quotechar") (.text "")
    let delimiter := orElse (field "delimiter") (.text "")
    (joinText value quote delimiter).map .text
  | none => .ok value

/-- The format of an entry, if it has one. -/
def format? : Value → Option (Value × Entries)
  | .mapping entry =>
    match Entries.getText? entry "format" with
    | some f => if f.isTruthy then some (f, entry) else none
    | none => none
  | _ => none

/-- What becomes of the entry of a key. -/
def resolveEntry (key entry : Value) : Except Failure Resolution :=
  match format? entry with
  | none => .ok (.value entry)
  | some (format, fields) => do
    let name ← textOf format.plain
    let kind := String.ofList (Text.lower name.toList)
    let value := (Entries.getText? fields "value").getD .null
    if kind == "text" || kind == "text-list" then
      ((textEntry fields).map Resolution.value).mapError .fault
    else if kind == "verbatim" then pure (.value value)
    else if kind == "json" then pure (.deferred value)
    else do
      let shown ← textOf format.shown
      problem key ("unknown format " ++ shown)

/-- What becomes of each entry. -/
def resolutions : Entries → Except Failure (List (Value × Resolution))
  | [] => .ok []
  | (key, entry) :: rest => do
    let r ← resolveEntry key entry
    let more ← resolutions rest
    pure ((key, r) :: more)

/-- The entries whose values are known without an expansion. -/
def plainEntries (rs : List (Value × Resolution)) : Entries :=
  rs.filterMap fun (key, r) => r.value?.map fun v => (key, v)

/-- The keys whose values have to be expanded. -/
def deferredKeys (rs : List (Value × Resolution)) : List Value :=
  rs.filterMap fun (key, r) => match r with
    | .value _ => none
    | .deferred _ => some key

/-- What expands a text with variables. -/
abbrev Expander := String → Entries → Eval Value

/-- The entries with every deferred value expanded, in order. -/
def expandAll (expand : Expander) (bindings : Entries) :
    List (Value × Resolution) → Eval Entries
  | [] => pure []
  | (key, .value v) :: rest => do
    let more ← expandAll expand bindings rest
    pure ((key, v) :: more)
  | (key, .deferred v) :: rest => do
    let text ← Eval.ofFault (Json.render .compact v)
    let expanded ← expand text bindings
    let more ← expandAll expand bindings rest
    pure ((key, expanded) :: more)

/-- The values of the entries that need no expansion. -/
def resolvePlain (globals : Value) : Except Failure Entries := do
  let entries ← flatten globals
  let rs ← resolutions entries
  pure (plainEntries rs)

/-- The values of all entries.  Texts to expand see the plain entries, overlaid by `overlay`. -/
def resolve (globals : Value) (expand : Option Expander) (overlay : Value) : Eval Entries := do
  let entries ← Eval.ofExcept (flatten globals)
  let rs ← Eval.ofExcept (resolutions entries)
  match deferredKeys rs with
  | [] => pure (plainEntries rs)
  | first :: _ =>
    match expand with
    | none => Eval.ofExcept (problem first "json entries need an expression expander")
    | some expand => do
      let upper ← Eval.ofFault (if overlay.isTruthy then overlay.toEntries else .ok [])
      expandAll expand (Entries.update (plainEntries rs) upper) rs

end Sigil.Globals
