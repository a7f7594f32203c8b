/-
# What holds of every evaluation

An evaluation is put together from few kinds of step: values, failures, sequences, environment
variables, the arguments and frames of calls, and the calls of functions.  A relation between steps
that is closed under these therefore holds between the evaluations of a text with two interpreters
of templates, as soon as it holds between the calls of the functions that the text calls.  A run
over a value adds the places of failures and the diagnostic trace.

Relations are graded: `Holds calls x y` relates two steps that call the functions `calls` in order,
and the grades of a sequence are joined.  For the steps of a run over a value the grade is the list
of the texts that are evaluated.  A relation that does not look at the calls ignores the grade, and
a property of one evaluation ignores the other.
-/
import Sigil.Proofs.Calls
import Sigil.Proofs.Unlocated

namespace Sigil

namespace Eval

/-! ### Closed relations -/

/-- The step that looks up an environment variable. -/
def getenv (key : String) : Eval Value := onHost fun h => some (.ok (.text (h.getenv key)), h)

/-- The step that adds a line to the diagnostic trace. -/
def diagnose (parts : Host → List String) : Eval Unit :=
  onHost fun h => some (.ok (), h.diagnose (parts h))

@[simp] lemma run_getenv (key : String) (s : Session) :
    (getenv key).run s = some (.ok (.text (s.host.getenv key)), s) := rfl

@[simp] lemma run_diagnose (parts : Host → List String) (s : Session) :
    (diagnose parts).run s = some (.ok (), { s with host := s.host.diagnose (parts s.host) }) := rfl

/-- A step whose failure is changed. -/
def mapFailure {α : Type} (f : Failure → Failure) (x : Eval α) : Eval α := do
  let r ← outcome x
  ofExcept (r.mapError f)

lemma run_mapFailure {α : Type} (f : Failure → Failure) (x : Eval α) (s : Session) :
    (mapFailure f x).run s = (x.run s).map fun (r, t) => (r.mapError f, t) := by
  rw [mapFailure, run_bind]
  change ((x.run s).map _).bind _ = _
  cases x.run s <;> rfl

/-- A relation that is closed under sequences. -/
structure SequenceClosed (Holds : ∀ {α : Type}, List String → Eval α → Eval α → Prop) : Prop where
  /-- Values are related to themselves. -/
  pure {α : Type} (a : α) : Holds [] (pure a) (pure a)
  /-- Failures that are not located are related to themselves. -/
  fail {α : Type} (grade : List String) {e : Failure} : e.Fresh →
    Holds grade (ofExcept (.error e) : Eval α) (ofExcept (.error e))
  /-- Sequences of related steps are related. -/
  bind {α β : Type} {grade more : List String} {x y : Eval α} {f g : α → Eval β} :
    Holds grade x y → (∀ a, Holds more (f a) (g a)) → Holds (grade ++ more) (x >>= f) (y >>= g)

/-- A relation that is closed under the steps of an evaluation. -/
structure StepClosed (Holds : ∀ {α : Type}, List String → Eval α → Eval α → Prop) : Prop extends
    SequenceClosed Holds where
  /-- Environment variables are related to themselves. -/
  getenv (key : String) : Holds [] (getenv key) (getenv key)
  /-- So is the recording of an argument. -/
  record (v : Value) : Holds [] (record v) (record v)
  /-- Related steps are related within a frame. -/
  within {α : Type} {calls : List String} {x y : Eval α} (frame : Frame) : Holds calls x y →
    Holds calls (within frame x) (within frame y)

lemma ofExcept_error_bind {α β : Type} (e : Failure) (f : α → Eval β) :
    (ofExcept (.error e) >>= f) = ofExcept (.error e) := rfl

lemma ofExcept_ok {α : Type} (a : α) : ofExcept (.ok a) = pure a := rfl

lemma ofFault_ok {α : Type} (a : α) : ofFault (.ok a : Except Fault α) = pure a := rfl

lemma ofFault_error {α : Type} (f : Fault) :
    ofFault (.error f : Except Fault α) = ofExcept (.error (.fault f)) := rfl

variable {Holds : ∀ {α : Type}, List String → Eval α → Eval α → Prop}

lemma SequenceClosed.ofFault (h : SequenceClosed Holds) {α : Type} (r : Except Fault α) :
    Holds [] (ofFault r) (Eval.ofFault r) := by
  cases r with
  | error f => exact h.fail [] ⟨rfl, rfl⟩
  | ok a => exact h.pure a

lemma SequenceClosed.bind_left (h : SequenceClosed Holds) {α β : Type} {grade : List String}
    {x y : Eval α} {f g : α → Eval β} (hx : Holds grade x y) (hf : ∀ a, Holds [] (f a) (g a)) :
    Holds grade (x >>= f) (y >>= g) := by
  simpa only [List.append_nil] using h.bind hx hf

lemma SequenceClosed.bind_right (h : SequenceClosed Holds) {α β : Type} {grade : List String}
    {x y : Eval α} {f g : α → Eval β} (hx : Holds [] x y) (hf : ∀ a, Holds grade (f a) (g a)) :
    Holds grade (x >>= f) (y >>= g) := h.bind hx hf

lemma SequenceClosed.map (h : SequenceClosed Holds) {α β : Type} {grade : List String}
    {x y : Eval α} (f : α → β) (hx : Holds grade x y) : Holds grade (f <$> x) (f <$> y) := by
  rw [map_eq_pure_bind, map_eq_pure_bind]
  exact h.bind_left hx fun a => h.pure (f a)

end Eval

open Eval

/-- The calls of the functions that these call words name are related. -/
def CallsRelated (Holds : ∀ {α : Type}, List String → Eval α → Eval α → Prop) (W : String → Prop)
    (sc sc' : Scope) : Prop :=
  ∀ w entry args, W w → sc.functions.lookup (calledName w) = some entry →
    Holds [entry.name] (sc.invoke (calledName w) entry args) (sc'.invoke (calledName w) entry args)

/-- The line that the diagnostic trace keeps of a call. -/
def callNote (name : String) (entry : RegistryEntry Callable) (args : List Value) : List String :=
  ["Evaluator.call", name, "argc", toString args.length,
    if entry.wantsParams then "params" else ""]

/-- How a call of a function ends: with the value of the function, or with an error of the language
whose cause is the failure of the function. -/
lemma run_invoke (sc : Scope) (name : String) (entry : RegistryEntry Callable) (args : List Value)
    (s : Session) :
    (sc.invoke name entry args).run s =
      (entry.function.call sc.reenter args (if entry.wantsParams then some sc.params else none)
        (s.host.diagnose (callNote name entry args))).map fun (r, host) =>
          (r.mapError (callFailure name args s.frames), { s with host := host }) := by
  let t : Session := { s with host := s.host.diagnose (callNote name entry args) }
  rw [Scope.invoke, run_bind_ok (a := ()) (t := t) rfl, run_bind]
  change ((entry.function.call _ _ _ t.host).map _ |>.map _).bind _ = _
  cases entry.function.call sc.reenter args (if entry.wantsParams then some sc.params else none)
      t.host with
  | none => rfl
  | some p =>
      obtain ⟨e | v, host⟩ := p <;> rfl

lemma run_invoke_eq_ok {sc : Scope} {name : String} {entry : RegistryEntry Callable}
    {args : List Value} {s t : Session} {v : Value} :
    (sc.invoke name entry args).run s = some (.ok v, t) ↔
      ∃ host, entry.function.call sc.reenter args
        (if entry.wantsParams then some sc.params else none)
          (s.host.diagnose (callNote name entry args)) = some (.ok v, host) ∧
            t = { s with host := host } := by
  rw [run_invoke, Option.map_eq_some_iff]
  constructor
  · rintro ⟨⟨r, host⟩, hcall, heq⟩
    obtain ⟨hr, rfl⟩ := Prod.mk.inj heq
    exact ⟨host, except_mapError_eq_ok.mp hr ▸ hcall, rfl⟩
  · rintro ⟨host, hcall, rfl⟩
    exact ⟨_, hcall, rfl⟩

/-! ### Evaluations -/

section

variable {Holds : ∀ {α : Type}, List String → Eval α → Eval α → Prop} {W : String → Prop}
  {functions : Functions} {params : Entries} {re re' : Reentry}

lemma lookup_related (h : StepClosed Holds) (name : String) :
    Holds [] (Scope.lookup ⟨functions, params, re⟩ name)
      (Scope.lookup ⟨functions, params, re'⟩ name) := by
  unfold Scope.lookup
  dsimp only
  split
  · exact h.pure _
  · split
    · exact h.getenv _
    · exact h.fail [] ⟨rfl, rfl⟩

lemma Node.eq_ident_of_ident? {e : Node} {name : String} (h : e.ident? = some name) :
    e = .ident name := by
  cases e <;> simp_all [Node.ident?]

mutual

/-- The evaluations of an expression as an argument, by recursion on the expression. -/
lemma evalNode_related (h : StepClosed Holds)
    (hcalls : CallsRelated Holds W ⟨functions, params, re⟩ ⟨functions, params, re'⟩) {e : Node}
    (he : e.Over W) :
    Holds (e.calls functions) (Scope.evalNode ⟨functions, params, re⟩ e)
      (Scope.evalNode ⟨functions, params, re'⟩ e) :=
  match he with
  | .text => h.pure _
  | .number => h.ofFault _
  | .string => h.pure _
  | .ident => lookup_related h _
  | @Node.Over.call _ w args hw hargs => by
      rw [Scope.evalNode, Scope.evalNode, Scope.dispatch, Scope.dispatch, Node.calls]
      refine h.within _ ?_
      dsimp only
      cases hentry : functions.lookup (calledName w) with
      | none => exact h.fail _ ⟨rfl, rfl⟩
      | some entry =>
          exact h.bind (evalArguments_related h hcalls hargs entry.wantsParams) fun args =>
            hcalls w entry args hw hentry

lemma evalArguments_related (h : StepClosed Holds)
    (hcalls : CallsRelated Holds W ⟨functions, params, re⟩ ⟨functions, params, re'⟩)
    {es : List Node} (hes : Node.AllOver W es) (wants : Bool) :
    Holds (Node.callsAll functions es) (Scope.evalArguments ⟨functions, params, re⟩ wants es)
      (Scope.evalArguments ⟨functions, params, re'⟩ wants es) :=
  match hes with
  | .nil => h.pure _
  | @Node.AllOver.cons _ e es he hes => by
      have hnode := evalNode_related h hcalls he
      have hrest := fun v : Value => h.bind_right (h.record v) fun _ =>
        h.bind_left (evalArguments_related h hcalls hes wants) fun more => h.pure (v :: more)
      unfold Scope.evalArguments Node.callsAll
      split
      · -- a function that wants the parameters does not evaluate a bare name
        rename_i hname
        obtain rfl := Node.eq_ident_of_ident? hname
        exact h.bind_right (h.pure _) hrest
      · exact h.bind hnode fun v => h.bind_right (h.pure (stripQuotes v)) hrest

end

lemma evalTop_related (h : StepClosed Holds)
    (hcalls : CallsRelated Holds W ⟨functions, params, re⟩ ⟨functions, params, re'⟩) {e : Node}
    (he : e.Over W) :
    Holds (e.calls functions) (Scope.evalTop ⟨functions, params, re⟩ e)
      (Scope.evalTop ⟨functions, params, re'⟩ e) := by
  cases he with
  | text => exact h.pure _
  | number => exact h.pure _
  | string => exact h.pure _
  | ident => exact evalNode_related h hcalls .ident
  | call hw hargs => exact evalNode_related h hcalls (.call hw hargs)

lemma evalJoined_related (h : StepClosed Holds)
    (hcalls : CallsRelated Holds W ⟨functions, params, re⟩ ⟨functions, params, re'⟩)
    {es : List Node} (hes : Node.AllOver W es) :
    Holds (Node.callsAll functions es) (Scope.evalJoined ⟨functions, params, re⟩ es)
      (Scope.evalJoined ⟨functions, params, re'⟩ es) := by
  induction es with
  | nil => exact h.pure _
  | cons e es ih =>
      obtain ⟨he, hes⟩ : e.Over W ∧ Node.AllOver W es := by
        cases hes with
        | cons he hes => exact ⟨he, hes⟩
      rw [Scope.evalJoined, Scope.evalJoined, Node.callsAll]
      exact h.bind (evalTop_related h hcalls he) fun v => h.bind_right (h.ofFault v.toText)
        fun part => h.bind_left (ih hes) fun more => h.pure (part ++ more)

lemma eval_related (h : StepClosed Holds)
    (hcalls : CallsRelated Holds W ⟨functions, params, re⟩ ⟨functions, params, re'⟩)
    {es : List Node} (hes : Node.AllOver W es) :
    Holds (Node.callsAll functions es) (Scope.eval ⟨functions, params, re⟩ es)
      (Scope.eval ⟨functions, params, re'⟩ es) := by
  have hjoined := h.map Value.text (evalJoined_related h hcalls hes)
  rcases hes with - | ⟨he, - | ⟨-, -⟩⟩
  · exact hjoined
  · rw [Node.callsAll, Node.callsAll, List.append_nil]
    exact h.bind_left (evalTop_related h hcalls he) fun _ => h.pure _
  · exact hjoined

/-- The evaluations of a text with two interpreters of templates. -/
lemma run_related (h : StepClosed Holds)
    (hcalls : CallsRelated Holds W ⟨functions, params, re⟩ ⟨functions, params, re'⟩)
    {text : String} (htext : TextOver W functions text) :
    Holds (textCalls functions text) (Scope.run ⟨functions, params, re⟩ text)
      (Scope.run ⟨functions, params, re'⟩ text) := by
  -- the text is cut and parsed without regard to the interpreter of templates
  have hsame : ∀ r, Scope.expressions ⟨functions, params, r⟩ text =
      Scope.expressions ⟨functions, [], .never⟩ text := fun _ => rfl
  unfold Scope.run textCalls
  rw [hsame re, hsame re']
  cases hes : Scope.expressions ⟨functions, [], .never⟩ text with
  | error e => exact h.fail _ (notLocated_expressions _ _ e hes)
  | ok es => exact eval_related h hcalls (htext es (expressions_eq_ok_iff.mp hes))

end

/-! ### Runs -/

/-- A relation that is closed under the steps of two runs over texts whose call words are of the
kind `W`.  Its grade lists the texts that are evaluated; `Step` relates the evaluations of a
text. -/
structure RunClosed (Step Holds : ∀ {α : Type}, List String → Eval α → Eval α → Prop)
    (W : String → Prop) (run run' : Run) : Prop extends SequenceClosed Holds where
  /-- The evaluations of texts are related. -/
  steps : StepClosed Step
  /-- The runs have the same functions. -/
  functions_eq : run'.functions = run.functions
  /-- Calls of functions are related, whatever the parameters. -/
  calls (params : Entries) : CallsRelated Step W ⟨run.functions, params, run.reenter⟩
    ⟨run.functions, params, run'.reenter⟩
  /-- Lines of the diagnostic trace are related to themselves. -/
  diagnose (parts : Host → List String) : Holds [] (diagnose parts) (diagnose parts)
  /-- A text without a sigil is not evaluated. -/
  free {α : Type} (a : α) {text : String} : sigil ∉ text.toList →
    Holds [text] (Pure.pure a) (Pure.pure a)
  /-- The evaluations of a text are related when each run locates its failures. -/
  located {text : String} {x y : Eval Value} : Step (textCalls run.functions text) x y →
    Holds [text] (mapFailure (run.locate text) x) (mapFailure (run'.locate text) y)

/-- The names of the functions that texts call. -/
def textsCalls (functions : Functions) (texts : List String) : List String :=
  texts.flatMap (textCalls functions)

lemma textsCalls_append (functions : Functions) (texts more : List String) :
    textsCalls functions (texts ++ more) =
      textsCalls functions texts ++ textsCalls functions more :=
  List.flatMap_append

lemma textsCalls_singleton (functions : Functions) (text : String) :
    textsCalls functions [text] = textCalls functions text := by
  simp [textsCalls]

/-- A relation between evaluations that does not mind where failures are located is one between
runs. -/
lemma Eval.StepClosed.runClosed {Holds : ∀ {α : Type}, List String → Eval α → Eval α → Prop}
    {W : String → Prop} {run run' : Run} (h : StepClosed Holds)
    (hfunctions : run'.functions = run.functions)
    (hcalls : ∀ params, CallsRelated Holds W ⟨run.functions, params, run.reenter⟩
      ⟨run.functions, params, run'.reenter⟩)
    (hdiagnose : ∀ parts, Holds [] (Eval.diagnose parts) (Eval.diagnose parts))
    (hlocated : ∀ {calls : List String} {x y : Eval Value} (text : String), Holds calls x y →
      Holds calls (mapFailure (run.locate text) x) (mapFailure (run'.locate text) y)) :
    RunClosed Holds (fun texts => Holds (textsCalls run.functions texts)) W run run' where
  pure := h.pure
  fail _ := h.fail _
  bind hx hf := by
    rw [textsCalls_append]
    exact h.bind hx hf
  steps := h
  functions_eq := hfunctions
  calls := hcalls
  diagnose := hdiagnose
  free a _ hfree := by
    rw [textsCalls_singleton, textCalls_of_free _ hfree]
    exact h.pure a
  located hx := by
    rw [textsCalls_singleton]
    exact hlocated _ hx

/-- Only a text with a sigil is evaluated. -/
lemma interpretString_of_sigil (run : Run) (params : Entries) {text : String}
    (h : text.toList.contains sigil) :
    run.interpretString params text =
      mapFailure (run.locate text) (Scope.run ⟨run.functions, params, run.reenter⟩ text) := by
  rw [Run.interpretString, if_pos h]
  rfl

/-- A text that is parsed has the value of its expressions, and their failures are located. -/
lemma interpretString_of_parses {run : Run} (params : Entries) {text : String} {es : List Node}
    (h : text.toList.contains sigil) (hparse : Parses run.functions.isName text es) (s : Session) :
    (run.interpretString params text).run s =
      ((Scope.eval ⟨run.functions, params, run.reenter⟩ es).run s).map fun (r, t) =>
        (r.mapError (run.locate text), t) := by
  have hrun := @run_of_parses ⟨run.functions, params, run.reenter⟩ text es hparse s
  rw [interpretString_of_sigil run params h, run_mapFailure, hrun]

lemma interpretString_of_free (run : Run) (params : Entries) {text : String}
    (h : ¬ text.toList.contains sigil) : run.interpretString params text = pure (.text text) := by
  rw [Run.interpretString, if_neg h]

section

variable {Step Holds : ∀ {α : Type}, List String → Eval α → Eval α → Prop} {W : String → Prop}
  {run run' : Run}

lemma interpretString_related (h : RunClosed Step Holds W run run') (params : Entries)
    {text : String} (htext : TextOver W run.functions text) :
    Holds [text] (run.interpretString params text) (run'.interpretString params text) := by
  by_cases hsigil : text.toList.contains sigil
  · have hrun := run_related h.steps (h.calls params) htext
    rw [interpretString_of_sigil run params hsigil, interpretString_of_sigil run' params hsigil,
      h.functions_eq]
    exact h.located hrun
  · rw [interpretString_of_free run params hsigil, interpretString_of_free run' params hsigil]
    exact h.free _ (by simpa using hsigil)

lemma interpretKey_related (h : RunClosed Step Holds W run run') (params : Entries) {key : Value}
    (hkey : ∀ slot ∈ key.keySlots, TextOver W run.functions slot.text) :
    Holds (key.keySlots.map (·.text)) (run.interpretKey params key)
      (run'.interpretKey params key) := by
  cases key with
  | text s =>
      refine h.bind_left (interpretString_related h params (hkey _ (List.mem_singleton_self _)))
        fun v => ?_
      split
      · exact h.pure _
      · exact h.bind_left (h.ofFault _) fun _ => h.pure _
  | _ => exact h.pure _

mutual

/-- The runs over a value, by recursion on the value. -/
lemma walk_related (h : RunClosed Step Holds W run run') (params : Entries) (v : Value)
    (hv : ∀ slot ∈ v.slots, TextOver W run.functions slot.text) :
    Holds v.strings (run.walk params v) (run'.walk params v) := by
  cases v with
  | text s => exact interpretString_related h params (hv _ (List.mem_singleton_self _))
  | list items => exact h.map _ (walkItems_related h params items hv)
  | tuple items => exact h.map _ (walkItems_related h params items hv)
  | mapping entries => exact h.bind_left (walkEntries_related h params entries hv) fun _ => h.pure _
  | _ => exact h.pure _

lemma walkItems_related (h : RunClosed Step Holds W run run') (params : Entries)
    (items : List Value)
    (hitems : ∀ slot ∈ Value.itemSlots items, TextOver W run.functions slot.text) :
    Holds ((Value.itemSlots items).map (·.text)) (run.walkItems params items)
      (run'.walkItems params items) := by
  cases items with
  | nil => exact h.pure _
  | cons v rest =>
      simp only [Value.itemSlots, List.mem_append, or_imp, forall_and] at hitems
      rw [Value.itemSlots, List.map_append]
      exact h.bind (walk_related h params v hitems.1) fun first =>
        h.bind_left (walkItems_related h params rest hitems.2) fun more => h.pure (first :: more)

lemma walkEntries_related (h : RunClosed Step Holds W run run') (params : Entries)
    (entries : List (Value × Value))
    (hentries : ∀ slot ∈ Value.entrySlots entries, TextOver W run.functions slot.text) :
    Holds ((Value.entrySlots entries).map (·.text)) (run.walkEntries params entries)
      (run'.walkEntries params entries) := by
  match entries with
  | [] => exact h.pure _
  | (key, v) :: rest =>
      simp only [Value.entrySlots, List.mem_append, or_imp, forall_and] at hentries
      obtain ⟨hv, hkey, hrest⟩ := hentries
      rw [Value.entrySlots, List.map_append, List.map_append]
      exact h.bind (walk_related h params v hv) fun value =>
        h.bind (interpretKey_related h params hkey) fun name =>
          h.bind_left (walkEntries_related h params rest hrest) fun more =>
            h.pure ((name, value) :: more)

end

lemma localStrings_related_of_not_isTruthy (h : RunClosed Step Holds W run run') {α : Type} (a : α)
    (options : Options) {locals : Value} (hlocals : ¬ locals.isTruthy) :
    Holds (options.localStrings locals) (pure a) (pure a) := by
  unfold Options.localStrings
  split
  · cases locals with
    | text s =>
        obtain rfl : s = "" := by simpa [Value.isTruthy] using hlocals
        exact h.free a (by simp)
    | list items =>
        obtain rfl : items = [] := by simpa [Value.isTruthy] using hlocals
        exact h.pure a
    | tuple items =>
        obtain rfl : items = [] := by simpa [Value.isTruthy] using hlocals
        exact h.pure a
    | mapping entries =>
        obtain rfl : entries = [] := by simpa [Value.isTruthy] using hlocals
        exact h.pure a
    | _ => exact h.pure a
  · exact h.pure a

lemma interpretLocals_related (h : RunClosed Step Holds W run run') (options : Options)
    {locals : Value} (bindings : Entries)
    (hlocals : ∀ text ∈ options.localStrings locals, TextOver W run.functions text) :
    Holds (options.localStrings locals) (run.interpretLocals options locals bindings)
      (run'.interpretLocals options locals bindings) := by
  unfold Run.interpretLocals
  by_cases htruthy : locals.isTruthy
  · rw [if_pos htruthy, if_pos htruthy]
    refine h.bind_right (h.ofFault _) fun items => h.bind_right (h.diagnose _) fun _ => ?_
    rw [Options.localStrings] at hlocals ⊢
    cases hlarge : options.tooLarge locals with
    | error f => exact h.fail _ ⟨rfl, rfl⟩
    | ok large =>
        rw [ofFault_ok, pure_bind, pure_bind]
        cases large with
        | true => exact h.pure _
        | false =>
            rw [hlarge] at hlocals
            exact walk_related h bindings locals fun slot hslot =>
              hlocals _ (List.mem_map_of_mem hslot)
  · rw [if_neg htruthy, if_neg htruthy]
    exact localStrings_related_of_not_isTruthy h _ options htruthy

lemma deferredTexts_of_deferredKeys {rs : List (Value × Globals.Resolution)}
    (h : Globals.deferredKeys rs = []) : Globals.deferredTexts rs = [] := by
  simp only [Globals.deferredKeys, Globals.deferredTexts, List.filterMap_eq_nil_iff] at h ⊢
  rintro ⟨key, v | v⟩ hmem
  · rfl
  · simpa using h _ hmem

lemma expandAll_related (h : RunClosed Step Holds W run run') {expand expand' : Globals.Expander}
    (bindings : Entries) {rs : List (Value × Globals.Resolution)}
    (hexpand : ∀ text ∈ Globals.deferredTexts rs, ∀ bindings,
      Holds [text] (expand text bindings) (expand' text bindings)) :
    Holds (Globals.deferredTexts rs) (Globals.expandAll expand bindings rs)
      (Globals.expandAll expand' bindings rs) := by
  induction rs with
  | nil => exact h.pure _
  | cons entry rest ih =>
      obtain ⟨key, v | v⟩ := entry
      · exact h.bind_left (ih hexpand) fun more => h.pure _
      · rw [Globals.expandAll, Globals.expandAll]
        cases htext : Json.render .compact v with
        | error f => exact h.fail _ ⟨rfl, rfl⟩
        | ok text =>
            rw [Globals.deferredTexts_cons htext] at hexpand ⊢
            rw [ofFault_ok, pure_bind, pure_bind]
            have hmore := ih fun t ht => hexpand t (List.mem_cons_of_mem text ht)
            exact h.bind (hexpand text List.mem_cons_self bindings) fun expanded =>
              h.bind_left hmore fun more => h.pure _

lemma resolve_related (h : RunClosed Step Holds W run run') {expand expand' : Globals.Expander}
    (globals : Entries) (overlay : Value)
    (hexpand : ∀ text ∈ Globals.jsonTexts globals, ∀ bindings,
      Holds [text] (expand text bindings) (expand' text bindings)) :
    Holds (Globals.jsonTexts globals)
      (Globals.resolve (.mapping globals) (some expand) overlay)
      (Globals.resolve (.mapping globals) (some expand') overlay) := by
  have hflatten : Globals.flatten (.mapping globals) = .ok globals := rfl
  rw [Globals.jsonTexts] at hexpand ⊢
  rw [Globals.resolve, Globals.resolve, hflatten, ofExcept_ok, pure_bind, pure_bind]
  cases hrs : Globals.resolutions globals with
  | error e => exact h.fail _ (Globals.notLocated_resolutions globals e hrs)
  | ok rs =>
      rw [hrs] at hexpand
      rw [ofExcept_ok, pure_bind, pure_bind]
      dsimp only
      cases hkeys : Globals.deferredKeys rs with
      | nil =>
          rw [deferredTexts_of_deferredKeys hkeys]
          exact h.pure _
      | cons first more =>
          exact h.bind_right (h.ofFault _) fun upper => expandAll_related h _ hexpand

end

/-! ### Layerings and plans -/

/-- The layering of parameters where the texts of global values are expanded in a way of their
own. -/
def Run.layerBy (run : Run) (expand : Globals.Expander) (options : Options) (locals : Value)
    (globals : Entries) : Eval Entries :=
  if globals.isEmpty then do
    let resolved ← run.interpretLocals options locals []
    Eval.ofFault resolved.toEntries
  else do
    let plain ← Eval.ofExcept (Globals.resolvePlain (.mapping globals))
    let resolved ← run.interpretLocals options locals plain
    let layered ← Globals.resolve (.mapping globals) (some expand) resolved
    let upper ← Eval.ofFault resolved.toEntries
    pure (Entries.update layered upper)

/-- What carries out a plan where the texts of global values are expanded in a way of their own. -/
def Plan.carryOutBy (functions : Functions) (reenter : Reentry) (expand : Globals.Expander)
    (value locals : Value) : Plan → Eval Value
  | .skip options => (Plan.skip options).carryOut functions reenter value locals
  | .proceed options globals => do
    let run := Run.ofLocals functions reenter locals
    let params ← run.layerBy expand options locals globals
    run.walk params value

lemma carryOut_eq_carryOutBy (functions : Functions) (re : Reentry) (value locals : Value)
    (plan : Plan) : plan.carryOut functions re value locals =
      plan.carryOutBy functions re (Run.ofLocals functions re locals).expander value locals := by
  cases plan <;> rfl

/-- The texts of the global values that a plan expands. -/
def Plan.jsonTexts : Plan → List String
  | .skip _ => []
  | .proceed _ globals => Globals.jsonTexts globals

section

variable {Step Holds : ∀ {α : Type}, List String → Eval α → Eval α → Prop} {W : String → Prop}
  {run run' : Run} {expand expand' : Globals.Expander}

/-- The layerings of parameters. -/
lemma layerBy_related (h : RunClosed Step Holds W run run') (options : Options) {locals : Value}
    {globals : Entries}
    (hlocals : ∀ text ∈ options.localStrings locals, TextOver W run.functions text)
    (hexpand : ∀ text ∈ Globals.jsonTexts globals, ∀ bindings,
      Holds [text] (expand text bindings) (expand' text bindings)) :
    Holds (options.localStrings locals ++ Globals.jsonTexts globals)
      (run.layerBy expand options locals globals)
        (run'.layerBy expand' options locals globals) := by
  have hpart := @interpretLocals_related Step Holds W run run' h options locals
  rw [Run.layerBy, Run.layerBy]
  split
  · rename_i hempty
    obtain rfl : globals = [] := by simpa using hempty
    exact h.bind (hpart [] hlocals) fun _ => h.ofFault _
  · cases hplain : Globals.resolvePlain (.mapping globals) with
    | error e => exact h.fail _ (Globals.notLocated_resolvePlain _ e hplain)
    | ok plain =>
        rw [ofExcept_ok, pure_bind, pure_bind]
        exact h.bind (hpart plain hlocals) fun resolved =>
          h.bind_left (resolve_related h globals resolved hexpand) fun layered =>
            h.bind_left (h.ofFault resolved.toEntries) fun upper => h.pure _

/-- What two runs over the same local parameters do to carry out a plan. -/
lemma carryOutBy_related {functions : Functions} {re re' : Reentry} {value locals : Value}
    (h : RunClosed Step Holds W (Run.ofLocals functions re locals)
      (Run.ofLocals functions re' locals))
    {plan : Plan} (hplan : ∀ text ∈ plan.texts value locals, TextOver W functions text)
    (hexpand : ∀ text ∈ plan.jsonTexts, ∀ bindings,
      Holds [text] (expand text bindings) (expand' text bindings)) :
    Holds (plan.texts value locals) (plan.carryOutBy functions re expand value locals)
      (plan.carryOutBy functions re' expand' value locals) := by
  cases plan with
  | skip options =>
      exact h.bind_right (h.diagnose _) fun _ => h.pure _
  | proceed options globals =>
      simp only [Plan.texts, List.mem_append, or_imp, forall_and] at hplan
      obtain ⟨hlocals, -, hvalue⟩ := hplan
      rw [Plan.texts, ← List.append_assoc]
      exact h.bind (layerBy_related h options hlocals hexpand) fun params =>
        walk_related h params value fun slot hslot => hvalue _ (List.mem_map_of_mem hslot)

lemma Plan.mem_texts_of_mem_jsonTexts {plan : Plan} {text : String} (h : text ∈ plan.jsonTexts)
    (value locals : Value) : text ∈ plan.texts value locals := by
  cases plan with
  | skip options => simp [Plan.jsonTexts] at h
  | proceed options globals =>
      exact List.mem_append_right _ (List.mem_append_left _ h)

lemma carryOut_related {functions : Functions} {re re' : Reentry} {value locals : Value}
    (h : RunClosed Step Holds W (Run.ofLocals functions re locals)
      (Run.ofLocals functions re' locals))
    {plan : Plan} (hplan : ∀ text ∈ plan.texts value locals, TextOver W functions text) :
    Holds (plan.texts value locals) (plan.carryOut functions re value locals)
      (plan.carryOut functions re' value locals) := by
  rw [carryOut_eq_carryOutBy, carryOut_eq_carryOutBy]
  exact carryOutBy_related h hplan fun text htext bindings =>
    interpretString_related h bindings (hplan text (plan.mem_texts_of_mem_jsonTexts htext _ _))

end

end Sigil
