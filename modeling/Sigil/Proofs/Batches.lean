/-
# Interpreting several values at once

A batch merges and layers once, where a call for each value does so again.  If the functions are
pure, up to the function for templates, all this has the same result every time: a step has a value
that the surroundings alone decide, merging the same global values again changes nothing, and a
value that is too large keeps its call from merging but not from giving the value.  So a batch gives
every value the result of its own call, whenever it is made, and fails only if one of these calls
does.
-/
import Sigil.Proofs.Layering

namespace Sigil

open Eval

/-! ### The values of steady steps -/

namespace Eval

section

variable {α β : Type} {x : Eval α} {h : Host} {a b : α}

/-- The step has this value in the surroundings of a host. -/
def Gives (x : Eval α) (h : Host) (a : α) : Prop :=
  ∃ s t, s.host.surroundings = h.surroundings ∧ x.run s = some (.ok a, t)

/-- A steady step has its value from every session in these surroundings. -/
lemma Gives.run (hgives : Gives x h a) (hx : Steady x x) {s : Session}
    (hs : s.host.surroundings = h.surroundings) :
    ∃ t, x.run s = some (.ok a, t) ∧ t.host.surroundings = h.surroundings := by
  obtain ⟨s', t', hs', hrun⟩ := hgives
  obtain ⟨t, hrun', ht⟩ := (hx s' a t' hrun).2 s (hs.trans hs'.symm)
  exact ⟨t, hrun', ht.trans hs'⟩

lemma Gives.unique (ha : Gives x h a) (hb : Gives x h b) (hx : Steady x x) : a = b := by
  obtain ⟨s, t, hs, hrun⟩ := ha
  obtain ⟨t', hrun', -⟩ := hb.run hx hs
  rw [hrun] at hrun'
  simp only [Option.some.injEq, Prod.mk.injEq, Except.ok.injEq] at hrun'
  exact hrun'.1

lemma gives_pure : Gives (pure a) h b ↔ a = b := by
  constructor
  · rintro ⟨s, t, -, hrun⟩
    exact (by simpa using hrun : a = b ∧ s = t).1
  · rintro rfl
    exact ⟨⟨h, []⟩, _, rfl, rfl⟩

lemma gives_ofFault {r : Except Fault α} : Gives (ofFault r) h a ↔ r = .ok a := by
  cases r with
  | error f =>
      simp only [reduceCtorEq, iff_false]
      rintro ⟨s, t, -, hrun⟩
      cases hrun
  | ok b => rw [ofFault_ok, gives_pure, Except.ok.injEq]

lemma gives_bind {f : α → Eval β} {b : β} (hx : Steady x x) (hf : ∀ a, Steady (f a) (f a)) :
    Gives (x >>= f) h b ↔ ∃ a, Gives x h a ∧ Gives (f a) h b := by
  constructor
  · rintro ⟨s, t, hs, hrun⟩
    obtain ⟨a, u, ha, hb⟩ := run_bind_eq_ok.mp hrun
    exact ⟨a, ⟨s, u, hs, ha⟩, u, t, (hx s a u ha).1.trans hs, hb⟩
  · rintro ⟨a, ⟨s, u, hs, ha⟩, hb⟩
    obtain ⟨t, hrun, -⟩ := hb.run (hf a) ((hx s a u ha).1.trans hs)
    exact ⟨s, t, hs, run_bind_eq_ok.mpr ⟨a, u, ha, hrun⟩⟩

lemma gives_map (hx : Steady x x) {f : α → β} {b : β} :
    Gives (f <$> x) h b ↔ ∃ a, Gives x h a ∧ f a = b := by
  have hpure (a : α) : Steady (pure (f a)) (pure (f a)) := Steady.stepClosed.pure (f a)
  rw [map_eq_pure_bind, gives_bind hx hpure]
  simp only [gives_pure]

lemma Steady.pure (a : α) : Steady (pure a) (pure a) := Steady.stepClosed.pure a

lemma Steady.ofFault (r : Except Fault α) : Steady (ofFault r) (ofFault r) :=
  Steady.stepClosed.ofFault r

lemma Steady.bind {y : Eval α} {f g : α → Eval β} (hx : Steady x y)
    (hf : ∀ a, Steady (f a) (g a)) : Steady (x >>= f) (y >>= g) :=
  @SequenceClosed.bind _ Steady.stepClosed.toSequenceClosed _ _ [] [] _ _ _ _ hx hf

lemma Steady.map {y : Eval α} (hx : Steady x y) (f : α → β) : Steady (f <$> x) (f <$> y) :=
  @SequenceClosed.map _ Steady.stepClosed.toSequenceClosed _ _ [] _ _ f hx

/-- A step that starts without calls under way has its value on every host with these
surroundings. -/
lemma gives_iff_start (hx : Steady x x) {g : Host} (hg : g.surroundings = h.surroundings) :
    Gives x h a ↔ ∃ g', x.start g = some (.ok a, g') := by
  constructor
  · intro hgives
    obtain ⟨t, hrun, -⟩ := @Gives.run _ _ _ _ hgives hx ⟨g, []⟩ hg
    refine ⟨t.host, ?_⟩
    rw [Eval.start, hrun]
    rfl
  · rintro ⟨g', hstart⟩
    obtain ⟨⟨r, t⟩, hrun, heq⟩ := Option.map_eq_some_iff.mp hstart
    cases heq
    exact ⟨⟨g, []⟩, t, hg, hrun⟩

lemma surroundings_of_start (hx : Steady x x) {g : Host} (hstart : x.start h = some (.ok a, g)) :
    g.surroundings = h.surroundings := by
  obtain ⟨⟨r, t⟩, hrun, heq⟩ := Option.map_eq_some_iff.mp hstart
  cases heq
  exact (hx _ a t hrun).1

lemma Steady.start (hx : Steady x x) : Steady (onHost x.start) (onHost x.start) := by
  intro s a t hrun
  obtain ⟨h, hstart, rfl⟩ := run_onHost_eq_ok.mp hrun
  have hgives := (gives_iff_start hx rfl).mpr ⟨h, hstart⟩
  refine ⟨surroundings_of_start hx hstart, fun s' hs' => ?_⟩
  obtain ⟨g, hstart'⟩ := (gives_iff_start hx hs').mp hgives
  exact ⟨_, run_onHost hstart', (surroundings_of_start hx hstart').trans hs'⟩

end

end Eval

/-! ### Functions that may be called again -/

/-- A pure function, or the function for templates. -/
def RegistryEntry.IsRepeatable (entry : RegistryEntry Callable) : Prop :=
  entry.IsPure ∨ entry.function = .forEach

/-- What the interpreter of templates does is steady. -/
def Reentry.IsSteady (re : Reentry) : Prop :=
  ∀ template params, Steady (onHost (re template params)) (onHost (re template params))

section

variable {re : Reentry} {functions : Functions}

/-- The template is interpreted for the first item and then for the others. -/
lemma onHost_interpretEach (re : Reentry) (template item : Value) (rest : List Value) :
    onHost (interpretEach re template (item :: rest)) =
      onHost (re template (itemParams item)) >>= fun v =>
        (v :: ·) <$> onHost (interpretEach re template rest) := by
  refine ExceptT.ext (funext fun s => ?_)
  change (onHost (interpretEach re template (item :: rest))).run s =
    (onHost (re template (itemParams item)) >>= fun v =>
      (v :: ·) <$> onHost (interpretEach re template rest)).run s
  rw [run_bind]
  change Option.map _ (interpretEach re template (item :: rest) s.host) =
    (Option.map _ (re template (itemParams item) s.host)).bind _
  rw [interpretEach]
  cases re template (itemParams item) s.host with
  | none => rfl
  | some p =>
      obtain ⟨e | v, h⟩ := p
      · rfl
      · simp only [Option.map_some, Option.bind_some, run_map]
        change _ = Option.map _ (Option.map _ (interpretEach re template rest h))
        cases interpretEach re template rest h <;> rfl

lemma interpretEach_steady (hre : re.IsSteady) (template : Value) (items : List Value) :
    Steady (onHost (interpretEach re template items))
      (onHost (interpretEach re template items)) := by
  induction items with
  | nil => exact .pure []
  | cons item rest ih =>
      rw [onHost_interpretEach]
      exact (hre template (itemParams item)).bind fun v => ih.map (v :: ·)

lemma steady_onHost_const {α : Type} (r : Except Failure α) :
    Steady (onHost fun h => some (r, h)) (onHost fun h => some (r, h)) := by
  cases r with
  | error e =>
      intro s a t h
      cases h
  | ok a => exact .pure a

lemma onHost_map {α β : Type} (run : Host → Option (Except Failure α × Host)) (f : α → β) :
    (onHost fun h => (run h).map fun (r, h) => (r.map f, h)) = f <$> onHost run := by
  refine ExceptT.ext (funext fun s => ?_)
  rw [run_map]
  change Option.map _ (Option.map _ (run s.host)) = Option.map _ (Option.map _ (run s.host))
  cases run s.host <;> rfl

lemma forEach_steady (hre : re.IsSteady) (args : List Value) (params : Option Entries) :
    Steady (onHost (forEach re args params)) (onHost (forEach re args params)) := by
  unfold forEach
  split
  · exact steady_onHost_const _
  · split
    · exact steady_onHost_const _
    · rw [onHost_map]
      exact (interpretEach_steady hre _ _).map Value.list
  · exact steady_onHost_const _

/-- What a repeatable function does is steady if the interpreter of templates is. -/
lemma RegistryEntry.IsRepeatable.steady {entry : RegistryEntry Callable}
    (hentry : entry.IsRepeatable) (hre : re.IsSteady) (args : List Value)
    (params : Option Entries) :
    Steady (onHost (entry.function.call re args params))
      (onHost (entry.function.call re args params)) := by
  obtain hpure | heach := hentry
  · exact hpure.steady re re args params
  · rw [heach]
    exact forEach_steady hre args params

/-- Being steady is closed under the steps of a run that calls repeatable functions. -/
lemma steady_runClosed {run : Run} (hre : run.reenter.IsSteady) :
    RunClosed (fun _ x y => Steady x y) (fun _ x y => Steady x y)
      (Names RegistryEntry.IsRepeatable run.functions) run run :=
  Steady.stepClosed.runClosed rfl
    (fun _ _ entry args hw hentry => invoke_steady_of_call _ entry args fun _ =>
      (hw entry hentry).steady hre args _) .diagnose
    fun _ h => h.mapFailure _ _

/-- The functions are repeatable. -/
def Repeatable (functions : Functions) : Prop := ∀ entry ∈ functions.entries, entry.IsRepeatable

variable {run : Run}

lemma Repeatable.walk_steady (hfunctions : Repeatable run.functions) (hre : run.reenter.IsSteady)
    (params : Entries) (v : Value) : Steady (run.walk params v) (run.walk params v) :=
  walk_related (steady_runClosed hre) params v fun _ _ => callsOnly_of_forall hfunctions _

lemma Repeatable.layer_steady (hfunctions : Repeatable run.functions)
    (hre : run.reenter.IsSteady) (options : Options) (locals : Value) (globals : Entries) :
    Steady (run.layer options locals globals) (run.layer options locals globals) := by
  have htext (text : String) := @callsOnly_of_forall _ _ hfunctions text
  exact @layerBy_related _ _ _ run run run.expander run.expander (steady_runClosed hre) options
    locals globals (fun text _ => htext text) fun text _ bindings =>
      interpretString_related (steady_runClosed hre) bindings (htext text)

lemma Repeatable.carryOut_steady (hfunctions : Repeatable functions) (hre : re.IsSteady)
    (value locals : Value) (plan : Plan) :
    Steady (plan.carryOut functions re value locals) (plan.carryOut functions re value locals) :=
  carryOut_related (steady_runClosed hre) fun text _ => callsOnly_of_forall hfunctions text

/-- So the interpreter of templates is steady, by induction on the depth. -/
lemma Repeatable.reentry_steady (hfunctions : Repeatable functions) (store : Globals.Store)
    (depth : ℕ) : (reentry functions store depth).IsSteady := by
  induction depth with
  | zero =>
      intro template params s a t h
      cases h
  | succ depth ih =>
      intro template params
      let r : Request := { value := template, locals := params }
      change Steady (onHost (interpretPlanned functions (reentry functions store depth) r
        (r.plan store).1)) (onHost (interpretPlanned _ _ r (r.plan store).1))
      cases (r.plan store).1 with
      | error e => exact steady_onHost_const (.error e)
      | ok plan => exact (hfunctions.carryOut_steady ih template params plan).start

end

/-! ### Calls that are repeated -/

namespace Globals.Store

variable {s t : Store} {new : Value}

/-- Global values that are merged already change nothing when they are merged again. -/
lemma mergeNew_mergeNew (h : s.mergeNew new = .ok t) : t.mergeNew new = .ok t := by
  unfold mergeNew at h ⊢
  split at h
  · rfl
  · unfold merge at h ⊢
    obtain ⟨entries, hflatten, rfl⟩ := except_map_eq_ok.mp h
    rw [hflatten, Except.map, Entries.update_update]

/-- A call that begins again begins as before. -/
lemma enter_enter (s : Store) (options : Options) (new : Value) :
    (s.enter options new).2.enter options new = s.enter options new := by
  unfold enter
  cases options.ignoreGlobals with
  | true => rfl
  | false =>
      simp only [Bool.false_eq_true, if_false]
      cases hmerge : s.mergeNew new with
      | error e => simp only [hmerge]
      | ok t => simp only [mergeNew_mergeNew hmerge]

end Globals.Store

/-- The request with another value. -/
def Request.forValue (r : Request) (v : Value) : Request := { r with value := v }

namespace Interpreter

/-- The run of the calls of a request. -/
def runOf (i : Interpreter) (depth : ℕ) (r : Request) (options : Options) : Run :=
  Run.ofLocals i.functions (reentry i.functions (i.store.enter options r.newGlobals).2 depth)
    r.locals

/-- The parameters of the calls of a request in the surroundings of a host. -/
def Layers (i : Interpreter) (depth : ℕ) (r : Request) (options : Options) (h : Host)
    (params : Entries) : Prop :=
  ∃ globals, (i.store.enter options r.newGlobals).1 = .ok globals ∧
    Gives ((i.runOf depth r options).layer options r.locals globals) h params

/-- A value and what it gives with these parameters, unless it is too large. -/
def Answers (i : Interpreter) (depth : ℕ) (r : Request) (options : Options) (h : Host)
    (params : Entries) (v w : Value) : Prop :=
  options.tooLarge v = .ok true ∧ v = w ∨
    options.tooLarge v = .ok false ∧ Gives ((i.runOf depth r options).walk params v) h w

variable {i : Interpreter} {depth : ℕ} {r : Request} {options : Options} {v w : Value}
  {g g' h : Host} {store : Globals.Store}

lemma layer_steady (hfunctions : Repeatable i.functions) (depth : ℕ) (r : Request)
    (options : Options) (globals : Entries) :
    Steady ((i.runOf depth r options).layer options r.locals globals)
      ((i.runOf depth r options).layer options r.locals globals) :=
  @Repeatable.layer_steady (i.runOf depth r options) hfunctions
    (hfunctions.reentry_steady _ depth) options r.locals globals

lemma walk_steady (hfunctions : Repeatable i.functions) (depth : ℕ) (r : Request)
    (options : Options) (params : Entries) (v : Value) :
    Steady ((i.runOf depth r options).walk params v) ((i.runOf depth r options).walk params v) :=
  @Repeatable.walk_steady (i.runOf depth r options) hfunctions
    (hfunctions.reentry_steady _ depth) params v

lemma Layers.unique {params params' : Entries} (hlayers : i.Layers depth r options h params)
    (hlayers' : i.Layers depth r options h params') (hfunctions : Repeatable i.functions) :
    params = params' := by
  obtain ⟨globals, hglobals, hgives⟩ := hlayers
  obtain ⟨globals', hglobals', hgives'⟩ := hlayers'
  obtain rfl : globals = globals' := by simpa [hglobals] using hglobals'
  exact hgives.unique hgives' (layer_steady hfunctions depth r options globals)

/-! ### The call for one value -/

/-- A value that is too large is left as it is, and nothing is merged. -/
lemma interpretTo_of_large (hoptions : r.options = .ok options)
    (hsize : options.tooLarge v = .ok true) (g : Host) :
    ∃ g', i.interpretTo depth (r.forValue v) g = (some (.ok v, g'), i.store) ∧
      g'.surroundings = g.surroundings := by
  simp only [Interpreter.interpretTo, Request.plan, Request.forValue, hoptions, hsize]
  exact ⟨_, rfl, by simp⟩

/-- Any other value is interpreted with the parameters of the request. -/
lemma interpretTo_of_small (hfunctions : Repeatable i.functions)
    (hoptions : r.options = .ok options) (hsize : options.tooLarge v = .ok false)
    (hg : g.surroundings = h.surroundings) :
    (∃ g', (i.interpretTo depth (r.forValue v) g).1 = some (.ok w, g')) ↔
      ∃ params, i.Layers depth r options h params ∧
        Gives ((i.runOf depth r options).walk params v) h w := by
  have hplan := @Request.plan_of_tooLarge (r.forValue v) options hoptions hsize i.store
  simp only [Interpreter.interpretTo, hplan, Layers]
  change (∃ g', interpretPlanned i.functions (i.runOf depth r options).reenter (r.forValue v)
    ((i.store.enter options r.newGlobals).1.map (.proceed options)) g = some (.ok w, g')) ↔ _
  cases (i.store.enter options r.newGlobals).1 with
  | error e => simp [interpretPlanned, Except.map]
  | ok globals =>
      have hsteady := hfunctions.carryOut_steady (hfunctions.reentry_steady
        (i.store.enter options r.newGlobals).2 depth) v r.locals (.proceed options globals)
      simp only [Except.ok.injEq, exists_eq_left']
      refine (gives_iff_start hsteady hg).symm.trans ?_
      exact gives_bind (layer_steady hfunctions depth r options globals)
        fun params => walk_steady hfunctions depth r options params v

lemma interpretTo_of_error {f : Fault} (hoptions : r.options = .ok options)
    (hsize : options.tooLarge v = .error f) (g : Host) :
    i.interpretTo depth (r.forValue v) g = (some (.error (.fault f), g), i.store) := by
  simp only [Interpreter.interpretTo, Request.plan, Request.forValue, hoptions, hsize]
  rfl

/-- The values that the calls of a request have do not depend on when they are made. -/
lemma interpretTo_iff (hfunctions : Repeatable i.functions) (hoptions : r.options = .ok options)
    (hg : g.surroundings = h.surroundings) :
    (∃ g', (i.interpretTo depth (r.forValue v) g).1 = some (.ok w, g')) ↔
      options.tooLarge v = .ok true ∧ v = w ∨
        options.tooLarge v = .ok false ∧ ∃ params, i.Layers depth r options h params ∧
          Gives ((i.runOf depth r options).walk params v) h w := by
  cases hsize : options.tooLarge v with
  | error f => simp [interpretTo_of_error hoptions hsize]
  | ok large =>
      cases large with
      | true =>
          obtain ⟨g', hcall, -⟩ := @interpretTo_of_large i depth r options v hoptions hsize g
          simp [hcall]
      | false => simp [interpretTo_of_small hfunctions hoptions hsize hg]

/-- A call that succeeds leaves the surroundings, and a store from which calls begin as before. -/
lemma interpretTo_leaves (hfunctions : Repeatable i.functions) (hoptions : r.options = .ok options)
    (hcall : i.interpretTo depth (r.forValue v) g = (some (.ok w, g'), store)) :
    store.enter options r.newGlobals = i.store.enter options r.newGlobals ∧
      g'.surroundings = g.surroundings := by
  cases hsize : options.tooLarge v with
  | error f => simp [interpretTo_of_error hoptions hsize] at hcall
  | ok large =>
      cases large with
      | true =>
          obtain ⟨g'', hcall', hg''⟩ := @interpretTo_of_large i depth r options v hoptions hsize g
          rw [hcall'] at hcall
          cases hcall
          exact ⟨rfl, hg''⟩
      | false =>
          have hplan := @Request.plan_of_tooLarge (r.forValue v) options hoptions hsize i.store
          simp only [Interpreter.interpretTo, hplan] at hcall
          obtain ⟨hresult, rfl⟩ := Prod.mk.inj hcall
          refine ⟨i.store.enter_enter options r.newGlobals, ?_⟩
          cases hglobals : (i.store.enter options (r.forValue v).newGlobals).1 with
          | error e => simp [hglobals, interpretPlanned, Except.map] at hresult
          | ok globals =>
              rw [hglobals] at hresult
              exact surroundings_of_start (hfunctions.carryOut_steady (hfunctions.reentry_steady
                (i.store.enter options r.newGlobals).2 depth) v r.locals (.proceed options globals))
                  hresult

/-! ### The batch -/

section

variable {params : Entries}

/-- The answer for one value of a batch. -/
def answer (run : Run) (options : Options) (params : Entries) (v : Value) : Eval Value := do
  let large ← Eval.ofFault (options.tooLarge v)
  if large then pure v else run.walk params v

lemma walkAll_cons (run : Run) (options : Options) (params : Entries) (v : Value)
    (rest : List Value) :
    walkAll run options params (v :: rest) = answer run options params v >>= fun first =>
      (first :: ·) <$> walkAll run options params rest := by
  simp only [walkAll, answer, bind_assoc, map_eq_pure_bind]
  refine congrArg _ (funext fun large => ?_)
  cases large <;> rfl

lemma answer_steady (hfunctions : Repeatable i.functions) (depth : ℕ) (r : Request)
    (options : Options) (params : Entries) (v : Value) :
    Steady (answer (i.runOf depth r options) options params v)
      (answer (i.runOf depth r options) options params v) := by
  refine (Steady.ofFault _).bind fun large => ?_
  split
  · exact .pure v
  · exact walk_steady hfunctions depth r options params v

lemma walkAll_steady (hfunctions : Repeatable i.functions) (depth : ℕ) (r : Request)
    (options : Options) (params : Entries) (values : List Value) :
    Steady (walkAll (i.runOf depth r options) options params values)
      (walkAll (i.runOf depth r options) options params values) := by
  induction values with
  | nil => exact .pure []
  | cons v rest ih =>
      rw [walkAll_cons]
      exact (answer_steady hfunctions depth r options params v).bind fun first => ih.map _

lemma answer_iff :
    Gives (answer (i.runOf depth r options) options params v) h w ↔
      i.Answers depth r options h params v w := by
  rw [answer, Answers]
  cases options.tooLarge v with
  | error f =>
      rw [ofFault_error, ofExcept_error_bind]
      simp only [reduceCtorEq, false_and, or_self, iff_false]
      rintro ⟨s, t, -, hrun⟩
      cases hrun
  | ok large =>
      rw [ofFault_ok, pure_bind]
      cases large with
      | true => simp [gives_pure]
      | false => simp

/-- A batch gives each value its own answer. -/
lemma walkAll_iff (hfunctions : Repeatable i.functions) {values results : List Value} :
    Gives (walkAll (i.runOf depth r options) options params values) h results ↔
      List.Forall₂ (i.Answers depth r options h params) values results := by
  induction values generalizing results with
  | nil =>
      rw [walkAll, gives_pure, List.forall₂_nil_left_iff]
      exact eq_comm
  | cons v rest ih =>
      have hrest := walkAll_steady hfunctions depth r options params rest
      rw [walkAll_cons, gives_bind (answer_steady hfunctions depth r options params v)
        fun first => hrest.map _, List.forall₂_cons_left_iff]
      simp only [gives_map hrest, answer_iff, ih, exists_and_left, eq_comm]

/-- What a batch does with its parameters. -/
def answers (i : Interpreter) (depth : ℕ) (r : Request) (options : Options) (params : Entries) :
    Eval Value := do
  let values ← Eval.ofFault r.value.iterate
  .list <$> walkAll (i.runOf depth r options) options params values

/-- What a batch does with the global values in force. -/
def batch (i : Interpreter) (depth : ℕ) (r : Request) (options : Options) (globals : Entries) :
    Eval Value := do
  let params ← (i.runOf depth r options).layer options r.locals globals
  i.answers depth r options params

lemma interpretAllTo_eq (hoptions : r.options = .ok options) (h : Host) :
    i.interpretAllTo depth r h =
      (match (i.store.enter options r.newGlobals).1 with
        | .error e => some (.error e, h)
        | .ok globals => (i.batch depth r options globals).start h,
      (i.store.enter options r.newGlobals).2) := by
  unfold interpretAllTo batch answers runOf
  rw [hoptions]
  dsimp only
  rcases i.store.enter options r.newGlobals with ⟨e | globals, store⟩ <;> rfl

lemma answers_steady (hfunctions : Repeatable i.functions) (depth : ℕ) (r : Request)
    (options : Options) (params : Entries) :
    Steady (i.answers depth r options params) (i.answers depth r options params) :=
  (Steady.ofFault _).bind fun values =>
    (walkAll_steady hfunctions depth r options params values).map Value.list

lemma batch_steady (hfunctions : Repeatable i.functions) (depth : ℕ) (r : Request)
    (options : Options) (globals : Entries) :
    Steady (i.batch depth r options globals) (i.batch depth r options globals) :=
  (layer_steady hfunctions depth r options globals).bind (answers_steady hfunctions depth r options)

lemma answers_iff (hfunctions : Repeatable i.functions) :
    Gives (i.answers depth r options params) h w ↔
      ∃ values results, r.value.iterate = .ok values ∧
        List.Forall₂ (i.Answers depth r options h params) values results ∧ .list results = w := by
  have hall := walkAll_steady hfunctions depth r options params
  rw [answers, gives_bind (Steady.ofFault _) fun values => (hall values).map Value.list]
  simp only [gives_ofFault, gives_map (hall _), walkAll_iff hfunctions, exists_and_left]

/-- A batch has the parameters of a single call and gives each value its own answer. -/
lemma interpretAllTo_iff (hfunctions : Repeatable i.functions)
    (hoptions : r.options = .ok options) :
    (∃ h', (i.interpretAllTo depth r h).1 = some (.ok w, h')) ↔
      ∃ params, i.Layers depth r options h params ∧
        ∃ values results, r.value.iterate = .ok values ∧
          List.Forall₂ (i.Answers depth r options h params) values results ∧ .list results = w := by
  rw [interpretAllTo_eq hoptions]
  simp only [Layers]
  cases (i.store.enter options r.newGlobals).1 with
  | error e => simp
  | ok globals =>
      simp only [Except.ok.injEq, exists_eq_left']
      refine (gives_iff_start (batch_steady hfunctions depth r options globals) rfl).symm.trans ?_
      rw [batch, gives_bind (layer_steady hfunctions depth r options globals)
        (answers_steady hfunctions depth r options)]
      simp only [answers_iff hfunctions]

end

/-! ### Calls in turn -/

/-- The call for this value succeeds with this result. -/
def Gets (functions : Functions) (depth : ℕ) (r : Request) (store : Globals.Store) (h : Host)
    (v w : Value) : Prop :=
  ∃ h' store', interpretTo depth ⟨functions, store⟩ (r.forValue v) h = (some (.ok w, h'), store')

/-- The stores and hosts that calls in turn lead to from a first store and host on, each call with a
value of its own and otherwise with the same request. -/
inductive Reaches (functions : Functions) (depth : ℕ) (r : Request) (store : Globals.Store)
    (h : Host) : Globals.Store → Host → Prop
  | start : Reaches functions depth r store h store h
  | call {store' store'' : Globals.Store} {h' h'' : Host} {v w : Value} :
      Reaches functions depth r store h store' h' →
      interpretTo depth ⟨functions, store'⟩ (r.forValue v) h' = (some (.ok w, h''), store'') →
      Reaches functions depth r store h store'' h''

/-- Calls in turn leave the surroundings, and a store from which calls begin as before. -/
lemma Reaches.leaves {functions : Functions} {store store' : Globals.Store} {h' : Host}
    (hreaches : Reaches functions depth r store h store' h') (hfunctions : Repeatable functions)
    (hoptions : r.options = .ok options) :
    store'.enter options r.newGlobals = store.enter options r.newGlobals ∧
      h'.surroundings = h.surroundings := by
  induction hreaches with
  | start => exact ⟨rfl, rfl⟩
  | @call store' store'' h' h'' v w _ hcall ih =>
      obtain ⟨henter, hhost⟩ := @interpretTo_leaves ⟨functions, store'⟩ depth r options v w h' h''
        store'' hfunctions hoptions hcall
      exact ⟨henter.trans ih.1, hhost.trans ih.2⟩

/-- From a store that begins as that of the interpreter does, the call for a value succeeds with the
answer that the interpreter has for it. -/
lemma gets_iff (hfunctions : Repeatable i.functions) (hoptions : r.options = .ok options)
    (henter : store.enter options r.newGlobals = i.store.enter options r.newGlobals)
    (hg : g.surroundings = h.surroundings) :
    Gets i.functions depth r store g v w ↔
      options.tooLarge v = .ok true ∧ v = w ∨
        options.tooLarge v = .ok false ∧ ∃ params, i.Layers depth r options h params ∧
          Gives ((i.runOf depth r options).walk params v) h w := by
  have hcall := @interpretTo_iff ⟨i.functions, store⟩ depth r options v w g h hfunctions hoptions hg
  simp only [Layers, runOf, henter] at hcall ⊢
  rw [← hcall, Gets]
  simp only [Prod.ext_iff, exists_and_left, exists_eq', and_true]

lemma Answers.gets {params : Entries} (h' : i.Answers depth r options h params v w)
    (hlayers : i.Layers depth r options h params) (hfunctions : Repeatable i.functions)
    (hoptions : r.options = .ok options)
    (henter : store.enter options r.newGlobals = i.store.enter options r.newGlobals)
    (hg : g.surroundings = h.surroundings) : Gets i.functions depth r store g v w := by
  refine (gets_iff hfunctions hoptions henter hg).mpr (h'.imp id ?_)
  rintro ⟨hsize, hgives⟩
  exact ⟨hsize, params, hlayers, hgives⟩

/-- A batch leaves a store from which calls begin as before, and the surroundings. -/
lemma interpretAllTo_leaves (hfunctions : Repeatable i.functions)
    (hoptions : r.options = .ok options)
    (hbatch : i.interpretAllTo depth r h = (some (.ok w, g), store)) :
    store.enter options r.newGlobals = i.store.enter options r.newGlobals ∧
      g.surroundings = h.surroundings := by
  rw [interpretAllTo_eq hoptions] at hbatch
  obtain ⟨hresult, rfl⟩ := Prod.mk.inj hbatch
  refine ⟨i.store.enter_enter options r.newGlobals, ?_⟩
  cases hglobals : (i.store.enter options r.newGlobals).1 with
  | error e => simp [hglobals] at hresult
  | ok globals =>
      rw [hglobals] at hresult
      exact surroundings_of_start (batch_steady hfunctions depth r options globals) hresult

lemma options_of_interpretAllTo (hbatch : i.interpretAllTo depth r h = (some (.ok w, g), store)) :
    ∃ options, r.options = .ok options := by
  cases hoptions : r.options with
  | error f => simp [interpretAllTo, hoptions] at hbatch
  | ok options => exact ⟨options, rfl⟩

end Interpreter

open Interpreter

/-- **Batches and single calls.**  If a batch of repeatable functions succeeds, it has one result
for each value in order, and the call for a value succeeds with that result, whatever calls for
values were made before it, on the interpreter as it was before the batch or after it.  If for every
value a call succeeds at some point of such calls in turn, and one of the values is not too large,
the batch succeeds. -/
theorem batch_agrees {i : Interpreter} (hfunctions : Repeatable i.functions) (depth : ℕ)
    (r : Request) (h : Host) :
    (∀ all h' after, i.interpretAllTo depth r h = (some (.ok all, h'), after) →
      ∃ values results, r.value.iterate = .ok values ∧ all = .list results ∧
        List.Forall₂ (fun v w => ∀ store g,
          Reaches i.functions depth r i.store h store g ∨
              Reaches i.functions depth r after h' store g →
            Gets i.functions depth r store g v w) values results) ∧
    (∀ values, r.value.iterate = .ok values →
      (∀ v ∈ values, ∃ store g w, Reaches i.functions depth r i.store h store g ∧
        Gets i.functions depth r store g v w) →
      (∃ options, r.options = .ok options ∧ ∃ v ∈ values, options.tooLarge v = .ok false) →
        ∃ results h' after, i.interpretAllTo depth r h = (some (.ok (.list results), h'), after)) := by
  constructor
  · intro all h' after hbatch
    obtain ⟨options, hoptions⟩ := options_of_interpretAllTo hbatch
    obtain ⟨hafter, hhost⟩ := interpretAllTo_leaves hfunctions hoptions hbatch
    obtain ⟨params, hlayers, values, results, hvalues, hanswers, rfl⟩ :=
      (interpretAllTo_iff hfunctions hoptions).mp ⟨h', congrArg Prod.fst hbatch⟩
    refine ⟨values, results, hvalues, rfl, hanswers.imp fun v w hanswer store g hreaches => ?_⟩
    obtain ⟨henter, hg⟩ : store.enter options r.newGlobals = i.store.enter options r.newGlobals ∧
        g.surroundings = h.surroundings := by
      obtain hreaches | hreaches := hreaches
      · exact hreaches.leaves hfunctions hoptions
      · obtain ⟨henter, hg⟩ := hreaches.leaves hfunctions hoptions
        exact ⟨henter.trans hafter, hg.trans hhost⟩
    exact hanswer.gets hlayers hfunctions hoptions henter hg
  · rintro values hvalues hcalls ⟨options, hoptions, v, hv, hsize⟩
    have hanswer {v : Value} (hv : v ∈ values) : ∃ w, options.tooLarge v = .ok true ∧ v = w ∨
        options.tooLarge v = .ok false ∧ ∃ params, i.Layers depth r options h params ∧
          Gives ((i.runOf depth r options).walk params v) h w := by
      obtain ⟨store, g, w, hreaches, hgets⟩ := hcalls v hv
      obtain ⟨henter, hg⟩ := hreaches.leaves hfunctions hoptions
      exact ⟨w, (gets_iff hfunctions hoptions henter hg).mp hgets⟩
    -- the value that is not too large tells that the parameters are layered
    obtain ⟨params, hlayers⟩ : ∃ params, i.Layers depth r options h params := by
      obtain ⟨w, ⟨hlarge, -⟩ | ⟨-, params, hlayers, -⟩⟩ := hanswer hv
      · simp [hsize] at hlarge
      · exact ⟨params, hlayers⟩
    have hanswers : ∀ v ∈ values, ∃ w, i.Answers depth r options h params v w := by
      intro v hv
      obtain ⟨w, hlarge | ⟨hsmall, params', hlayers', hgives⟩⟩ := hanswer hv
      · exact ⟨w, .inl hlarge⟩
      · obtain rfl := hlayers.unique hlayers' hfunctions
        exact ⟨w, .inr ⟨hsmall, hgives⟩⟩
    choose! result hresult using hanswers
    have hresults : List.Forall₂ (i.Answers depth r options h params) values (values.map result) :=
      List.forall₂_map_right_iff.mpr (List.forall₂_same.mpr hresult)
    obtain ⟨h', hbatch⟩ := (@interpretAllTo_iff i depth r options (.list (values.map result)) h
      hfunctions hoptions).mpr ⟨params, hlayers, values, values.map result, hvalues, hresults, rfl⟩
    exact ⟨values.map result, h', _, Prod.ext hbatch rfl⟩

/-- An interpreter with the function for templates and one that gives the list of its arguments. -/
def listsAndTemplates : Interpreter :=
  ⟨⟨⟨forEachSignature.name, .forEach, false⟩ :: listScope.functions.entries⟩, .empty⟩

lemma repeatable_listsAndTemplates : Repeatable listsAndTemplates.functions := by
  intro entry hentry
  rcases List.mem_cons.mp hentry with rfl | hentry
  · exact .inr rfl
  · exact .inl (isPure_list entry hentry)

/-- A request over a value that hands a template back, one that uses a new global value, and one
that is too large. -/
def threeValues : Request where
  value := .list [.text "@forof(xs,xs)", .text "@list(g)", .text "it's a rather long text"]
  locals := .mapping [(.text "xs", .list [.null])]
  options := .ok ⟨.int 24, false⟩
  newGlobals := .mapping [(.text "g", .text "x")]

/-- The batch merges the new global value for all values; the one that is too large stays as it
is. -/
theorem batch_agrees_templates :
    let i := listsAndTemplates
    let after : Globals.Store := ⟨[(.text "g", .text "x")]⟩
    let long : Value := .text "it's a rather long text"
    Repeatable i.functions ∧
      (∃ h', i.interpretAllTo 1 threeValues Host.blank =
        (some (.ok (.list [.list [.list [.null]], .list [.text "x"], long]), h'), after)) ∧
      ∀ store g, Reaches i.functions 1 threeValues i.store Host.blank store g →
        Gets i.functions 1 threeValues store g (.text "@forof(xs,xs)") (.list [.list [.null]]) ∧
          Gets i.functions 1 threeValues store g (.text "@list(g)") (.list [.text "x"]) ∧
          Gets i.functions 1 threeValues store g long long := by
  intro i after long
  let s : Session := ⟨Host.blank, []⟩
  let options : Options := ⟨.int 24, false⟩
  let params : Entries := [(.text "g", .text "x"), (.text "xs", .list [.null])]
  have hlayers : i.Layers 1 threeValues options Host.blank params :=
    ⟨after.entries, rfl, s, s, rfl, by cbv⟩
  have hforof : Parses i.functions.isName "@forof(xs,xs)"
      [.call "forof" "@forof" [.ident "xs", .ident "xs"]] := except_map_eq_ok.mp (by cbv)
  have hlist : Parses i.functions.isName "@list(g)" [.call "list" "@list" [.ident "g"]] :=
    except_map_eq_ok.mp (by cbv)
  have hanswers : List.Forall₂ (i.Answers 1 threeValues options Host.blank params)
      [.text "@forof(xs,xs)", .text "@list(g)", long]
      [.list [.list [.null]], .list [.text "x"], long] := by
    refine .cons (.inr ⟨by cbv, s, s, rfl, ?_⟩) (.cons (.inr ⟨by cbv, s, s, rfl, ?_⟩)
      (.cons (.inl ⟨by cbv, rfl⟩) .nil))
    · rw [Run.walk, interpretString_of_parses params (by decide) hforof]
      rfl
    · rw [Run.walk, interpretString_of_parses params (by decide) hlist]
      rfl
  obtain ⟨h', hresult⟩ := (interpretAllTo_iff repeatable_listsAndTemplates rfl).mpr
    ⟨params, hlayers, _, _, rfl, hanswers, rfl⟩
  have hbatch : i.interpretAllTo 1 threeValues Host.blank =
      (some (.ok (.list [.list [.list [.null]], .list [.text "x"], long]), h'), after) :=
    Prod.ext hresult rfl
  obtain ⟨values, results, hvalues, hresults, hgets⟩ :=
    (batch_agrees repeatable_listsAndTemplates 1 threeValues Host.blank).1 _ _ _ hbatch
  cases hvalues
  cases hresults
  simp only [List.forall₂_cons, List.forall₂_nil_left_iff, and_true] at hgets
  obtain ⟨hfirst, hsecond, hthird⟩ := hgets
  exact ⟨repeatable_listsAndTemplates, ⟨h', hbatch⟩, fun store g hreaches =>
    ⟨hfirst store g (.inl hreaches), hsecond store g (.inl hreaches),
      hthird store g (.inl hreaches)⟩⟩

end Sigil
