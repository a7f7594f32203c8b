/-
# The interpreter

An interpreter resolves the expressions inside a value.  It has functions and a store of global
values that accumulates over its calls.  A call merges the global values it brings, layers the
parameters, and interprets the strings of the value.  Functions may hand templates back to the
interpreter; a call that nests them without end has no result at any depth.
-/
import Sigil.Globals.Store
import Sigil.Interpreter.Layering

namespace Sigil

/-- What a call of the interpreter is given: the value, local parameters, options and new global
values. -/
structure Request where
  /-- The value to interpret. -/
  value : Value
  /-- The local parameters. -/
  locals : Value := .null
  /-- The options, or a value that stands for them. -/
  options : Except Fault Options := .ok Options.standard
  /-- The new global values. -/
  newGlobals : Value := .null

/-- What a call does once its options and the global values are known. -/
inductive Plan where
  /-- Leave the value as it is. -/
  | skip (options : Options)
  /-- Interpret with these options and global values. -/
  | proceed (options : Options) (globals : Entries)

namespace Globals.Store

/-- The store after new global values are merged, if there are any. -/
def mergeNew (s : Store) : Value → Except Failure Store
  | .null => .ok s
  | new => s.merge new

/-- The global values that are in force in a call, and the store after it began. -/
def enter (s : Store) (options : Options) (newGlobals : Value) : Except Failure Entries × Store :=
  if options.ignoreGlobals then (.ok [], s)
  else match s.mergeNew newGlobals with
    | .ok t => (.ok t.entries, t)
    | .error e => (.error e, s)

end Globals.Store

/-- The plan of a request, and the store after its start. -/
def Request.plan (r : Request) (store : Globals.Store) : Except Failure Plan × Globals.Store :=
  match r.options with
  | .error f => (.error (.fault f), store)
  | .ok options =>
    match options.tooLarge r.value with
    | .error f => (.error (.fault f), store)
    | .ok true => (.ok (.skip options), store)
    | .ok false =>
      let (globals, store) := store.enter options r.newGlobals
      (globals.map (.proceed options), store)

/-- The result of an evaluation that starts without calls under way. -/
def Eval.start {α : Type} (step : Eval α) (h : Host) : Option (Except Failure α × Host) :=
  (step.run ⟨h, []⟩).map fun (r, s) => (r, s.host)

/-- Carries out a plan. -/
def Plan.carryOut (functions : Functions) (reenter : Reentry) (value locals : Value) :
    Plan → Eval Value
  | .skip options => do
    let _ ← Eval.onHost fun h =>
      let limit := (options.maxSize.plain.toOption).getD ""
      some (.ok (), h.diagnose ["size guard: skipping value larger than", limit])
    pure value
  | .proceed options globals => do
    let run := Run.ofLocals functions reenter locals
    let params ← run.layer options locals globals
    run.walk params value

/-- The result of a planned call with functions and a store, where templates may be handed back to
the interpreter to a given depth. -/
def interpretPlanned (functions : Functions) (reenter : Reentry) (r : Request)
    (plan : Except Failure Plan) (h : Host) : Option (Except Failure Value × Host) :=
  match plan with
  | .error e => some (.error e, h)
  | .ok plan => (plan.carryOut functions reenter r.value r.locals).start h

/-- The interpreter of templates to a given depth, over the global values of a store. -/
def reentry (functions : Functions) (store : Globals.Store) : Nat → Reentry
  | 0 => fun _ _ _ => none
  | depth + 1 => fun template params h =>
    let r : Request := { value := template, locals := params }
    interpretPlanned functions (reentry functions store depth) r (r.plan store).1 h

/-- An interpreter: its functions and its global values. -/
structure Interpreter where
  /-- The registered functions. -/
  functions : Functions
  /-- The global values. -/
  store : Globals.Store

namespace Interpreter

/-- The interpreter of a registry and a store.  Every registered function is looked up by its name,
so that those that hand templates back are given the interpreter. -/
def ofRegistry (functions : Functions) (store : Globals.Store) : Except Fault Interpreter := do
  let _ ← functions.names.mapM functions.get
  pure ⟨functions, store⟩

/-- The result of a call to a depth of nested templates, and the store after it. -/
def interpretTo (depth : Nat) (i : Interpreter) (r : Request) (h : Host) :
    Option (Except Failure Value × Host) × Globals.Store :=
  let (plan, store) := r.plan i.store
  (interpretPlanned i.functions (reentry i.functions store depth) r plan h, store)

/-- The values of several values, each unless it is too large. -/
def walkAll (run : Run) (options : Options) (params : Entries) : List Value → Eval (List Value)
  | [] => pure []
  | v :: rest => do
    let large ← Eval.ofFault (options.tooLarge v)
    let first ← if large then pure v else run.walk params v
    let more ← walkAll run options params rest
    pure (first :: more)

/-- The result of interpreting the items of a value in order with one layering of parameters, and
the store after it. -/
def interpretAllTo (depth : Nat) (i : Interpreter) (r : Request) (h : Host) :
    Option (Except Failure Value × Host) × Globals.Store :=
  match r.options with
  | .error f => (some (.error (.fault f), h), i.store)
  | .ok options =>
    match i.store.enter options r.newGlobals with
    | (.error e, store) => (some (.error e, h), store)
    | (.ok globals, store) =>
      let run := Run.ofLocals i.functions (reentry i.functions store depth) r.locals
      let steps : Eval Value := do
        let params ← run.layer options r.locals globals
        let values ← Eval.ofFault r.value.iterate
        .list <$> walkAll run options params values
      (steps.start h, store)

/-- The depth to which templates may nest in practice. -/
def nestingLimit : Nat := 1000

/-- The result of a call, and the store after it. -/
def interpret (i : Interpreter) (r : Request) (h : Host) :
    Option (Except Failure Value × Host) × Globals.Store :=
  i.interpretTo nestingLimit r h

/-- The result of interpreting the items of a value, and the store after it. -/
def interpretAll (i : Interpreter) (r : Request) (h : Host) :
    Option (Except Failure Value × Host) × Globals.Store :=
  i.interpretAllTo nestingLimit r h

/-- The interpreter of templates of an interpreter. -/
def reenter (i : Interpreter) : Reentry := reentry i.functions i.store nestingLimit

end Interpreter

end Sigil
