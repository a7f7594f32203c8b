/-
# Evaluating expressions

The arguments of a call are evaluated from left to right before its function is called.  The calls
under way form a stack of frames, each with the arguments it has so far; a failing function is
reported once, with that stack as its trace.  The stack is the same after an evaluation as before
it, however the evaluation ends.
-/
import Sigil.Host
import Sigil.Json.Reader
import Sigil.Node.Print
import Sigil.Number.Literal
import Sigil.Signature
import Sigil.Value.Text

namespace Sigil

/-- A call under way. -/
structure Frame where
  /-- The spelling of the call word. -/
  source : String
  /-- The arguments evaluated so far. -/
  arguments : List Value

/-- The state of an evaluation. -/
structure Session where
  /-- The host. -/
  host : Host
  /-- The calls under way, the innermost first. -/
  frames : List Frame

/-- A step of an evaluation: none if the templates that functions hand back nest without end. -/
abbrev Eval (α : Type) := ExceptT Failure (StateT Session Option) α

namespace Eval

/-- The step that ends in a given way. -/
def ofExcept {α : Type} (r : Except Failure α) : Eval α := ExceptT.mk (pure r)

/-- The step that ends in a fault or a value. -/
def ofFault {α : Type} (r : Except Fault α) : Eval α := ofExcept (r.mapError .fault)

/-- A step whose effect is on the host alone. -/
def onHost {α : Type} (run : Host → Option (Except Failure α × Host)) : Eval α :=
  ExceptT.mk fun s => (run s.host).map fun (r, h) => (r, { s with host := h })

/-- A step within a further frame, which is gone when the step has ended. -/
def within {α : Type} (frame : Frame) (step : Eval α) : Eval α :=
  ExceptT.mk fun s => (step.run { s with frames := frame :: s.frames }).map fun (r, t) =>
    (r, { t with frames := t.frames.tail })

/-- Adds an argument to the innermost frame. -/
def record (v : Value) : Eval Unit :=
  ExceptT.mk fun s => some (.ok (), { s with frames := match s.frames with
    | [] => []
    | frame :: outer => { frame with arguments := frame.arguments ++ [v] } :: outer })

/-- The calls under way, the innermost first. -/
def frames : Eval (List Frame) := ExceptT.mk fun s => some (.ok s.frames, s)

/-- The way in which a step ended. -/
def outcome {α : Type} (step : Eval α) : Eval (Except Failure α) :=
  ExceptT.mk fun s => (step.run s).map fun (r, t) => (.ok r, t)

end Eval

/-- What interprets a template with parameters on behalf of a function. -/
abbrev Reentry := Value → Value → Host → Option (Except Failure Value × Host)

/-- What expressions are evaluated in: the functions, the parameters, and the interpreter that
templates are handed back to. -/
structure Scope where
  /-- The registered functions. -/
  functions : Functions
  /-- The parameters in force. -/
  params : Entries
  /-- The interpreter of templates. -/
  reenter : Reentry

/-- The names that have a value without being parameters. -/
def constants : Entries :=
  [(.text "pi", .float 3.141592653589793), (.text "e", .float 2.718281828459045)]

/-- The start of the names that stand for environment variables. -/
def environmentMark : List Char := "ENV_".toList

/-- The environment variable that a name stands for, if it stands for one. -/
def environmentName? (name : String) : Option String :=
  if environmentMark.isPrefixOf name.toList then some (String.ofList (name.toList.drop 4)) else none

/-- The value of the environment variable that a name stands for; empty if it stands for none. -/
def environmentValue (h : Host) (name : String) : String :=
  match environmentName? name with
  | some key => h.getenv key
  | none => ""

/-- A text without the one pair of single quotes around it. -/
def stripQuotes : Value → Value
  | .text s =>
    match s.toList with
    | '\'' :: rest =>
      if rest.getLast? == some '\'' then .text (String.ofList rest.dropLast) else .text s
    | _ => .text s
  | v => v

/-- The value of a name: that of a parameter, of a constant or of an environment variable. -/
def Scope.lookup (sc : Scope) (name : String) : Eval Value :=
  match (Entries.getText? sc.params name).or (Entries.getText? constants name) with
  | some v => pure v
  | none =>
    match environmentName? name with
    | some key => Eval.onHost fun h => some (.ok (.text (h.getenv key)), h)
    | none => Eval.ofExcept (.error (.undefined name none))

/-- The lines of a trace of calls, the outermost first. -/
def traceText (frames : List Frame) : Except Fault String := do
  let calls ← frames.reverse.mapM fun f => sourceCall defaultWidth f.source f.arguments
  pure (joinWith "\n" ("islet call chain:" :: calls.map ("  at " ++ ·)))

/-- The failure of a function, with the calls under way as its trace.  The error names its cause, so
a trace or a cause without a text leaves only the fault of that. -/
def callFailure (name : String) (args : List Value) (frames : List Frame) (cause : Failure) :
    Failure :=
  match traceText frames, cause.wordingFault? with
  | .error f, _ => .fault f
  | .ok _, some f => .fault f
  | .ok trace, none => .call name args cause trace none

/-- The keys that the function for templates binds an item to. -/
def itemParams : Value → Value
  | .mapping entries => .mapping entries
  | v => .mapping [(.text "value", v)]

/-- The template that an argument stands for: a text that is JSON stands for its value. -/
def templateOf : Value → Value
  | .text s => ((Json.parse s.toList).toOption).getD (.text s)
  | v => v

/-- Interprets a template for each item in turn. -/
def interpretEach (reenter : Reentry) (template : Value) :
    List Value → Host → Option (Except Failure (List Value) × Host)
  | [], h => some (.ok [], h)
  | item :: rest, h =>
    match reenter template (itemParams item) h with
    | none => none
    | some (.error e, h) => some (.error e, h)
    | some (.ok v, h) =>
      (interpretEach reenter template rest h).map fun (r, h) => (r.map (v :: ·), h)

/-- The function that interprets a template for each item of a sequence. -/
def forEach (reenter : Reentry) (args : List Value) (params : Option Entries) :
    Host → Option (Except Failure Value × Host) := fun h =>
  match forEachSignature.bind args params.isSome with
  | .error f => some (.error (.fault f), h)
  | .ok [items, template] =>
    match items.items? with
    | none =>
      let fault := Fault.worded .type
        (items.shown.map ("For of exception: invalid array -> " ++ ·))
      some (.error (.fault fault), h)
    | some values =>
      (interpretEach reenter (templateOf template) values h).map fun (r, h) => (r.map .list, h)
  | .ok _ => some (.ok .null, h)

/-- Calls a callable. -/
def Callable.call (reenter : Reentry) (args : List Value) (params : Option Entries) :
    Callable → Host → Option (Except Failure Value × Host)
  | .function run, h => some ((run args params).run h)
  | .forEach, h => Sigil.forEach reenter args params h

/-- Calls a registered function with evaluated arguments.  What it fails with becomes the cause of
an error that carries the name, the arguments and the trace, if it has a wording. -/
def Scope.invoke (sc : Scope) (name : String) (entry : RegistryEntry Callable)
    (args : List Value) : Eval Value := do
  let _ ← Eval.onHost fun h =>
    let parts := ["Evaluator.call", name, "argc", toString args.length,
      if entry.wantsParams then "params" else ""]
    some (.ok (), h.diagnose parts)
  let params := if entry.wantsParams then some sc.params else none
  let result ← Eval.outcome (Eval.onHost (entry.function.call sc.reenter args params))
  match result with
  | .ok v => pure v
  | .error cause => do
    let frames ← Eval.frames
    Eval.ofExcept (.error (callFailure name args frames cause))

/-- The fault of evaluating what is no expression. -/
def notEvaluable (v : Value) : Fault :=
  Fault.worded .type (v.shown.map ("cannot evaluate node " ++ ·))

/-- The error of calling a name that is not registered. -/
def notRegistered (name : String) : Failure :=
  .call name [] (.fault ⟨.lookup, some ("function " ++ Text.quoted name ++ " is not registered")⟩)
    "" none

/-- A call, where `arguments` evaluates its arguments once it is known whether the function wants
the parameters. -/
def Scope.dispatch (sc : Scope) (name source : String) (arguments : Bool → Eval (List Value)) :
    Eval Value :=
  Eval.within ⟨if source.isEmpty then "@" ++ name else source, []⟩
    (match sc.functions.lookup name with
    | none => Eval.ofExcept (.error (notRegistered name))
    | some entry => do
      let args ← arguments entry.wantsParams
      sc.invoke name entry args)

/-- A bare name, if the expression is one. -/
def Node.ident? : Node → Option String
  | .ident name => some name
  | _ => none

mutual

/-- The value of an expression as an argument. -/
def Scope.evalNode (sc : Scope) : Node → Eval Value
  | .text s => pure (.text s)
  | .string s => pure (.text s)
  | .number s => Eval.ofFault (numberLiteral s)
  | .ident name => sc.lookup name
  | .call name source args => sc.dispatch name source fun wants => sc.evalArguments wants args
  | .foreign v => Eval.ofFault (.error (notEvaluable v))

/-- The values of the arguments of a call, from left to right.  A function that wants the
parameters takes a bare name as the key itself. -/
def Scope.evalArguments (sc : Scope) (wants : Bool) : List Node → Eval (List Value)
  | [] => pure []
  | node :: rest => do
    let v ← match wants, node.ident? with
      | true, some name => pure (.text name)
      | _, _ => do
        let v ← sc.evalNode node
        pure (stripQuotes v)
    Eval.record v
    let more ← sc.evalArguments wants rest
    pure (v :: more)

end

/-- The value of an expression at the top level, where numbers and strings are literal text. -/
def Scope.evalTop (sc : Scope) : Node → Eval Value
  | .text s => pure (.text s)
  | .string s => pure (.text s)
  | .number s => pure (.text s)
  | node => sc.evalNode node

/-- The texts of the values of several expressions, joined. -/
def Scope.evalJoined (sc : Scope) : List Node → Eval String
  | [] => pure ""
  | node :: rest => do
    let v ← sc.evalTop node
    let part ← Eval.ofFault v.toText
    let more ← sc.evalJoined rest
    pure (part ++ more)

/-- The value of a list of expressions: that of a single one, and otherwise the joined text. -/
def Scope.eval (sc : Scope) : List Node → Eval Value
  | [node] => do
    let v ← sc.evalTop node
    pure (match v with
      | .null => .text ""
      | v => v)
  | nodes => .text <$> sc.evalJoined nodes

/-- The expressions of a text. -/
def Scope.expressions (sc : Scope) (text : String) : Except Failure (List Node) :=
  match tokenize sc.functions.isName text with
  | .error e => .error (.ofUnterminated e)
  | .ok tokens =>
    match parse? tokens with
    | some (.ok nodes) => .ok nodes
    | some (.error e) => .error (.parsing e none)
    | none => .error (.fault (Fault.value unterminatedTokens))

/-- The value of a text. -/
def Scope.run (sc : Scope) (text : String) : Eval Value := do
  let nodes ← Eval.ofExcept (sc.expressions text)
  sc.eval nodes

end Sigil
