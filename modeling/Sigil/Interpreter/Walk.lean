/-
# Interpreting the strings of a value

Every string inside a value, keys of mappings included, is evaluated; everything else stays.  Items
are taken in order, and of an entry the value before the key.  An error is located at the string in
which it arose.
-/
import Sigil.Evaluate

namespace Sigil

/-- What the strings of a value are interpreted with: the functions, the interpreter of templates,
and the marks of the run. -/
structure Run where
  /-- The registered functions. -/
  functions : Functions
  /-- The interpreter of templates. -/
  reenter : Reentry
  /-- The mark of the chain of runs. -/
  chain : Value
  /-- The mark of the process. -/
  process : Value

namespace Run

/-- The marks in a value of local parameters. -/
def mark (locals : Value) (key : String) : Value :=
  match locals with
  | .mapping entries => (Entries.getText? entries key).getD .null
  | _ => .null

/-- The run with given local parameters. -/
def ofLocals (functions : Functions) (reenter : Reentry) (locals : Value) : Run :=
  ⟨functions, reenter, mark locals "CHAIN_ID", mark locals "PROCESS_ID"⟩

/-- The failure of a string, located there.  A failure of another kind than an error of the
language becomes one if it has a wording. -/
def locate (run : Run) (source : String) (e : Failure) : Failure :=
  let site : Site := ⟨.text source, run.chain, run.process⟩
  if e.isLanguageError then e.locate site
  else match e.wordingFault? with
    | some f => .fault f
    | none => (Failure.escaped e none).locate site

/-- The value of a string. -/
def interpretString (run : Run) (params : Entries) (s : String) : Eval Value :=
  if s.toList.contains sigil then do
    let result ← Eval.outcome (Scope.run ⟨run.functions, params, run.reenter⟩ s)
    Eval.ofExcept (result.mapError (run.locate s))
  else pure (.text s)

/-- The value of a key; that of a text key is a text again. -/
def interpretKey (run : Run) (params : Entries) : Value → Eval Value
  | .text s => do
    let v ← run.interpretString params s
    match v with
    | .text t => pure (.text t)
    | v => do
      let t ← Eval.ofFault v.toText
      pure (.text t)
  | key => pure key

mutual

/-- The value with its strings interpreted. -/
def walk (run : Run) (params : Entries) : Value → Eval Value
  | .text s => run.interpretString params s
  | .list items => .list <$> run.walkItems params items
  | .tuple items => .tuple <$> run.walkItems params items
  | .mapping entries => do
    let pairs ← run.walkEntries params entries
    pure (.mapping (Entries.ofPairs pairs))
  | v => pure v

/-- The items with their strings interpreted. -/
def walkItems (run : Run) (params : Entries) : List Value → Eval (List Value)
  | [] => pure []
  | v :: rest => do
    let first ← run.walk params v
    let more ← run.walkItems params rest
    pure (first :: more)

/-- The entries with their strings interpreted, each value before its key. -/
def walkEntries (run : Run) (params : Entries) : List (Value × Value) → Eval (List (Value × Value))
  | [] => pure []
  | (key, v) :: rest => do
    let value ← run.walk params v
    let name ← run.interpretKey params key
    let more ← run.walkEntries params rest
    pure ((name, value) :: more)

end

end Run

end Sigil
