/-
# Calls that are rejected for their global values

The global values of a call are flattened before they are merged, and the merged store is resolved
before any text is interpreted.  What fails in a text is the error of a call or a name, or a fault,
and never the error of a global value.  So a call that ends in the error of a global value was
rejected in one of two places.  If new global values have no proper shape, they are not merged.  If
an entry has an unknown format, they are merged already: the store has accumulated them, and keeps
the entry for which later calls are rejected as well.
-/
import Sigil.Proofs.Location

namespace Sigil

open Eval

/-- The error of a global value. -/
def Failure.IsOfGlobals (e : Failure) : Prop :=
  ∃ key problem site, e = .globalValue key problem site

lemma Failure.not_isOfGlobals_fault (f : Fault) : ¬ (Failure.fault f).IsOfGlobals := by
  rintro ⟨key, problem, site, h⟩
  cases h

namespace Eval

/-- If the step fails, its failure is not the error of a global value. -/
def SparesGlobals {α : Type} (x : Eval α) : Prop :=
  ∀ s e t, x.run s = some (.error e, t) → ¬ e.IsOfGlobals

section

variable {α β : Type} {x : Eval α}

lemma sparesGlobals_pure (a : α) : SparesGlobals (pure a) := by
  intro s e t h
  simp at h

lemma sparesGlobals_error {e : Failure} (he : ¬ e.IsOfGlobals) :
    SparesGlobals (ofExcept (.error e) : Eval α) := by
  intro s e' t h
  obtain ⟨rfl, -⟩ : e = e' ∧ s = t := by simpa using h
  exact he

lemma sparesGlobals_ofFault (r : Except Fault α) : SparesGlobals (ofFault r) := by
  cases r with
  | error f => exact sparesGlobals_error (Failure.not_isOfGlobals_fault f)
  | ok a => exact sparesGlobals_pure a

lemma SparesGlobals.bind {f : α → Eval β} (hx : SparesGlobals x)
    (hf : ∀ a, SparesGlobals (f a)) : SparesGlobals (x >>= f) := by
  intro s e t h
  rcases run_bind_eq_error.mp h with h | ⟨a, u, -, h⟩
  · exact hx s e t h
  · exact hf a u e t h

lemma SparesGlobals.map (hx : SparesGlobals x) (f : α → β) : SparesGlobals (f <$> x) := by
  rw [map_eq_pure_bind]
  exact hx.bind fun a => sparesGlobals_pure (f a)

lemma SparesGlobals.within (hx : SparesGlobals x) (frame : Frame) :
    SparesGlobals (within frame x) := by
  intro s e t h
  obtain ⟨⟨r, u⟩, hrun, heq⟩ := Option.map_eq_some_iff.mp h
  cases heq
  exact hx _ e u hrun

lemma sparesGlobals_record (v : Value) : SparesGlobals (record v) := by
  intro s e t h
  cases h

lemma sparesGlobals_diagnose (parts : Host → List String) : SparesGlobals (diagnose parts) := by
  intro s e t h
  simp at h

end

end Eval

/-! ### Texts -/

lemma not_isOfGlobals_callFailure (name : String) (args : List Value) (frames : List Frame)
    (cause : Failure) : ¬ (callFailure name args frames cause).IsOfGlobals := by
  rintro ⟨key, problem, site, heq⟩
  obtain ⟨trace, h⟩ | ⟨f, h⟩ := callFailure_cases name args frames cause <;> rw [h] at heq <;>
    cases heq

lemma not_isOfGlobals_of_expressions {sc : Scope} {text : String} {e : Failure}
    (h : sc.expressions text = .error e) : ¬ e.IsOfGlobals := by
  rintro ⟨key, problem, site, rfl⟩
  unfold Scope.expressions at h
  split at h
  · cases h
  · split at h <;> cases h

section

variable (sc : Scope)

lemma sparesGlobals_lookup (name : String) : SparesGlobals (sc.lookup name) := by
  unfold Scope.lookup
  split
  · exact sparesGlobals_pure _
  · split
    · intro s e t h
      cases h
    · exact sparesGlobals_error (by rintro ⟨key, problem, site, h⟩; cases h)

/-- Whatever a function fails with becomes the cause of another error. -/
lemma sparesGlobals_invoke (name : String) (entry : RegistryEntry Callable) (args : List Value) :
    SparesGlobals (sc.invoke name entry args) := by
  intro s e t h
  rw [run_invoke] at h
  obtain ⟨⟨r, host⟩, -, heq⟩ := Option.map_eq_some_iff.mp h
  obtain ⟨cause, -, rfl⟩ := except_mapError_eq_error.mp (Prod.mk.inj heq).1
  exact not_isOfGlobals_callFailure _ _ _ _

mutual

/-- The failures of an expression, by recursion on the expression. -/
lemma sparesGlobals_evalNode : ∀ e : Node, SparesGlobals (sc.evalNode e)
  | .text s => sparesGlobals_pure _
  | .string s => sparesGlobals_pure _
  | .number s => sparesGlobals_ofFault _
  | .ident name => sparesGlobals_lookup sc name
  | .call name source args => by
      rw [Scope.evalNode, Scope.dispatch]
      refine .within ?_ _
      split
      · exact sparesGlobals_error (by rintro ⟨key, problem, site, h⟩; cases h)
      · exact (sparesGlobals_evalArguments _ args).bind fun args => sparesGlobals_invoke sc _ _ args
  | .foreign v => sparesGlobals_ofFault _

lemma sparesGlobals_evalArguments (wants : Bool) :
    ∀ es : List Node, SparesGlobals (sc.evalArguments wants es)
  | [] => sparesGlobals_pure _
  | e :: es => by
      have hnode := sparesGlobals_evalNode e
      have hrest := fun v : Value => (sparesGlobals_record v).bind fun _ =>
        (sparesGlobals_evalArguments wants es).bind fun more => sparesGlobals_pure (v :: more)
      unfold Scope.evalArguments
      split
      · exact (sparesGlobals_pure _).bind hrest
      · exact hnode.bind fun v => (sparesGlobals_pure (stripQuotes v)).bind hrest

end

lemma sparesGlobals_evalTop (e : Node) : SparesGlobals (sc.evalTop e) := by
  unfold Scope.evalTop
  split
  · exact sparesGlobals_pure _
  · exact sparesGlobals_pure _
  · exact sparesGlobals_pure _
  · exact sparesGlobals_evalNode sc e

lemma sparesGlobals_eval (es : List Node) : SparesGlobals (sc.eval es) := by
  have hjoined (es : List Node) : SparesGlobals (sc.evalJoined es) := by
    induction es with
    | nil => exact sparesGlobals_pure _
    | cons e rest ih =>
        exact (sparesGlobals_evalTop sc e).bind fun v => (sparesGlobals_ofFault _).bind fun part =>
          ih.map _
  unfold Scope.eval
  split
  · exact (sparesGlobals_evalTop sc _).bind fun v => sparesGlobals_pure _
  · exact (hjoined _).map Value.text

/-- The failure of a text is not the error of a global value. -/
lemma sparesGlobals_run (text : String) : SparesGlobals (sc.run text) := by
  refine .bind ?_ fun es => sparesGlobals_eval sc es
  cases h : sc.expressions text with
  | error e => exact sparesGlobals_error (not_isOfGlobals_of_expressions h)
  | ok es => exact sparesGlobals_pure es

end

/-! ### Runs -/

section

variable (run : Run)

lemma not_isOfGlobals_locate {text : String} {e : Failure} (h : ¬ e.IsOfGlobals) :
    ¬ (run.locate text e).IsOfGlobals := by
  rintro ⟨key, problem, site, heq⟩
  cases e <;> simp_all [Run.locate, Failure.isLanguageError, Failure.locate, Failure.source,
    Failure.site?, Failure.withSite, Failure.IsOfGlobals]
  all_goals split at heq <;> cases heq

lemma sparesGlobals_interpretString (params : Entries) (text : String) :
    SparesGlobals (run.interpretString params text) := by
  intro s e t h
  obtain ⟨cause, hcause, rfl⟩ := interpretString_error h
  exact not_isOfGlobals_locate run (sparesGlobals_run _ _ _ _ _ hcause)

/-- The failure of a run over a value is that of one of its strings. -/
lemma sparesGlobals_walk (params : Entries) (v : Value) : SparesGlobals (run.walk params v) := by
  intro s e t h
  obtain ⟨before, slot, after, u, -, -, hslot⟩ := walk_error_iff.mp h
  rcases interpretSlot_error_iff.mp hslot with h | ⟨-, w, f, -, -, rfl⟩
  · exact sparesGlobals_interpretString run params slot.text u e t h
  · exact Failure.not_isOfGlobals_fault f

lemma sparesGlobals_interpretLocals (options : Options) (locals : Value) (bindings : Entries) :
    SparesGlobals (run.interpretLocals options locals bindings) := by
  unfold Run.interpretLocals
  split
  · refine (sparesGlobals_ofFault _).bind fun items => (sparesGlobals_diagnose fun _ => _).bind
      fun _ => (sparesGlobals_ofFault _).bind fun large => ?_
    split
    · exact sparesGlobals_pure _
    · exact sparesGlobals_walk run bindings locals
  · exact sparesGlobals_pure _

lemma sparesGlobals_expandAll (bindings : Entries) (rs : List (Value × Globals.Resolution)) :
    SparesGlobals (Globals.expandAll run.expander bindings rs) := by
  induction rs with
  | nil => exact sparesGlobals_pure _
  | cons r rest ih =>
      obtain ⟨key, v | v⟩ := r
      · exact ih.map _
      · exact (sparesGlobals_ofFault _).bind fun text =>
          (sparesGlobals_interpretString run bindings text).bind fun expanded => ih.map _

end

/-! ### Rejections -/

namespace Globals

/-- The formats of entries. -/
def formats : List String := ["text", "text-list", "verbatim", "json"]

/-- The entry has a format that is none of the formats; the text shows it. -/
def HasUnknownFormat (entry : Value) (shown : String) : Prop :=
  ∃ format fields name, format? entry = some (format, fields) ∧ format.plain = .ok name ∧
    String.ofList (Text.lower name.toList) ∉ formats ∧ format.shown = .ok shown

variable {globals : Entries} {e : Failure}

/-- An entry of unknown format is the only one with an error of its own. -/
lemma resolveEntry_error {key entry : Value} (h : resolveEntry key entry = .error e)
    (he : e.IsOfGlobals) :
    ∃ shown, HasUnknownFormat entry shown ∧ (∃ text, key.shown = .ok text) ∧
      e = .globalValue key ("unknown format " ++ shown) none := by
  have hspared {α : Type} {r : Except Fault α} (hr : r.mapError Failure.fault = .error e) :
      False := by
    obtain ⟨f, -, rfl⟩ := except_mapError_eq_error.mp hr
    exact Failure.not_isOfGlobals_fault f he
  unfold resolveEntry at h
  split at h
  · cases h
  · rename_i format fields hformat
    obtain h | ⟨name, hname, h⟩ := except_bind_eq_error.mp h
    · exact (hspared h).elim
    dsimp only at h
    split_ifs at h with htext hverbatim hjson
    · exact (hspared h).elim
    · cases h
    · cases h
    · obtain h | ⟨shown, hshown, h⟩ := except_bind_eq_error.mp h
      · exact (hspared h).elim
      · obtain h | ⟨text, hkey, h⟩ := except_bind_eq_error.mp h
        · exact (hspared h).elim
        · cases h
          refine ⟨shown, ⟨format, fields, name, hformat, except_mapError_eq_ok.mp hname, ?_,
            except_mapError_eq_ok.mp hshown⟩, ⟨text, except_mapError_eq_ok.mp hkey⟩, rfl⟩
          simp only [Bool.or_eq_true, beq_iff_eq, not_or] at htext hverbatim hjson
          simp [formats, htext, hverbatim, hjson]

/-- The error is that of the first entry that is not resolved, which has an unknown format; it shows
the key of the entry. -/
def RejectedFor (globals : Entries) (e : Failure) : Prop :=
  ∃ before key entry after shown, globals = before ++ (key, entry) :: after ∧
    (∃ rs, resolutions before = .ok rs) ∧ HasUnknownFormat entry shown ∧
      (∃ text, key.shown = .ok text) ∧ e = .globalValue key ("unknown format " ++ shown) none

lemma resolutions_error (h : resolutions globals = .error e) (he : e.IsOfGlobals) :
    RejectedFor globals e := by
  induction globals with
  | nil => cases h
  | cons first rest ih =>
      obtain ⟨key, entry⟩ := first
      obtain h | ⟨r, hr, h⟩ := except_bind_eq_error.mp h
      · obtain ⟨shown, hshown, hkey, rfl⟩ := resolveEntry_error h he
        exact ⟨[], key, entry, rest, shown, rfl, ⟨[], rfl⟩, hshown, hkey, rfl⟩
      · obtain h | ⟨more, -, h⟩ := except_bind_eq_error.mp h
        · obtain ⟨before, key', entry', after, shown, rfl, ⟨rs, hrs⟩, hshown, hkey, rfl⟩ := ih h
          have hbefore : resolutions ((key, entry) :: before) = .ok ((key, r) :: rs) :=
            except_bind_eq_ok.mpr ⟨r, hr, except_bind_eq_ok.mpr ⟨rs, hrs, rfl⟩⟩
          exact ⟨(key, entry) :: before, key', entry', after, shown, rfl, ⟨_, hbefore⟩, hshown,
            hkey, rfl⟩
        · cases h

lemma resolvePlain_eq_error :
    resolvePlain (.mapping globals) = .error e ↔ resolutions globals = .error e := by
  have hsteps : resolvePlain (.mapping globals) =
      resolutions globals >>= fun rs => pure (plainEntries rs) := rfl
  rw [hsteps, except_bind_eq_error]
  constructor
  · rintro (h | ⟨rs, -, h⟩)
    · exact h
    · cases h
  · exact .inl

/-- Only the shape of new global values keeps them from being merged. -/
lemma Store.flatten_of_mergeNew_error {s : Store} {new : Value} (h : s.mergeNew new = .error e) :
    flatten new = .error e := by
  unfold mergeNew at h
  split at h
  · cases h
  · unfold merge at h
    cases hflatten : flatten new with
    | error e' =>
        rw [hflatten] at h
        cases h
        rfl
    | ok entries =>
        rw [hflatten] at h
        cases h

end Globals

section

variable {run : Run} {options : Options} {locals : Value} {globals : Entries} {s t : Session}
  {e : Failure}

/-- Nothing is interpreted if a global value is not resolved. -/
lemma layer_of_resolutions_error (h : Globals.resolutions globals = .error e) (s : Session) :
    (run.layer options locals globals).run s = some (.error e, s) := by
  have hglobals : ¬ globals.isEmpty := by
    intro hempty
    obtain rfl : globals = [] := by simpa using hempty
    cases h
  rw [Run.layer, if_neg hglobals, Globals.resolvePlain_eq_error.mpr h]
  exact run_bind_error (run_ofExcept _ s) _

/-- A layering that succeeds in resolving the global values fails for another reason. -/
lemma layer_error (h : (run.layer options locals globals).run s = some (.error e, t))
    (he : e.IsOfGlobals) : Globals.resolutions globals = .error e := by
  cases hrs : Globals.resolutions globals with
  | error e' =>
      rw [layer_of_resolutions_error hrs] at h
      cases h
      rfl
  | ok rs =>
      have hresolve (overlay : Value) : SparesGlobals
          (Globals.resolve (.mapping globals) (some run.expander) overlay) := by
        have hflatten : Globals.flatten (.mapping globals) = .ok globals := rfl
        rw [Globals.resolve, hflatten, ofExcept_ok, pure_bind, hrs, ofExcept_ok, pure_bind]
        dsimp only
        split
        · exact sparesGlobals_pure _
        · exact (sparesGlobals_ofFault _).bind fun upper => sparesGlobals_expandAll run _ rs
      have hplain : Globals.resolvePlain (.mapping globals) = .ok (Globals.plainEntries rs) :=
        except_bind_eq_ok.mpr ⟨globals, rfl, except_bind_eq_ok.mpr ⟨rs, hrs, rfl⟩⟩
      have hspares : SparesGlobals (run.layer options locals globals) := by
        rw [Run.layer]
        split
        · exact (sparesGlobals_interpretLocals run options locals []).bind fun resolved =>
            sparesGlobals_ofFault _
        · rw [hplain, ofExcept_ok, pure_bind]
          exact (sparesGlobals_interpretLocals run options locals _).bind fun resolved =>
            (hresolve resolved).bind fun layered => (sparesGlobals_ofFault _).bind fun upper =>
              sparesGlobals_pure _
      exact absurd he (hspares s e t h)

end

/-- The call interprets its value with the global values of the store. -/
def Request.Layers (r : Request) : Prop :=
  ∃ options, r.options = .ok options ∧ options.tooLarge r.value = .ok false ∧
    options.ignoreGlobals = false

section

variable {functions : Functions} {re : Reentry} {options : Options} {value locals : Value}
  {globals : Entries} {h h' : Host} {e : Failure}

lemma carryOut_of_resolutions_error (hglobals : Globals.resolutions globals = .error e)
    (h : Host) :
    ((Plan.proceed options globals).carryOut functions re value locals).start h =
      some (.error e, h) := by
  have hrun := @run_bind_error _ _ _ _ _ _ (@layer_of_resolutions_error
    (Run.ofLocals functions re locals) options locals globals e hglobals ⟨h, []⟩)
    fun params => (Run.ofLocals functions re locals).walk params value
  rw [Plan.carryOut, Eval.start, hrun]
  rfl

lemma carryOut_error
    (hstart : ((Plan.proceed options globals).carryOut functions re value locals).start h =
      some (.error e, h')) (he : e.IsOfGlobals) : Globals.resolutions globals = .error e := by
  obtain ⟨⟨r, t⟩, hrun, heq⟩ := Option.map_eq_some_iff.mp hstart
  cases heq
  obtain hlayer | ⟨params, u, -, hwalk⟩ := run_bind_eq_error.mp hrun
  · exact layer_error hlayer he
  · exact absurd he (sparesGlobals_walk _ params value u e t hwalk)

end

/-- What a call leaves behind that is rejected for its global values: either the new ones have no
proper shape, and the store is as it was; or they are merged, an entry of the store has an unknown
format, and every later call that layers the store is rejected with the same error. -/
inductive Interpreter.Rejected (i : Interpreter) (newGlobals : Value) (e : Failure) :
    Globals.Store → Prop
  | unshaped : Globals.flatten newGlobals = .error e → i.Rejected newGlobals e i.store
  | unresolved {store : Globals.Store} : i.store.mergeNew newGlobals = .ok store →
      Globals.RejectedFor store.entries e →
      (∀ later : Request, later.Layers → later.newGlobals = .null → ∀ depth h,
        Interpreter.interpretTo depth ⟨i.functions, store⟩ later h = (some (.error e, h), store)) →
      i.Rejected newGlobals e store

section

variable {i : Interpreter} {depth : ℕ} {r : Request} {h h' : Host} {e : Failure}
  {store : Globals.Store}

/-- A call that layers global values has those of the store after the merge. -/
lemma interpretTo_of_layers {options : Options} (hoptions : r.options = .ok options)
    (hsize : options.tooLarge r.value = .ok false) (hlayers : options.ignoreGlobals = false) :
    i.interpretTo depth r h = match i.store.mergeNew r.newGlobals with
      | .error e => (some (.error e, h), i.store)
      | .ok merged => (((Plan.proceed options merged.entries).carryOut i.functions
          (reentry i.functions merged depth) r.value r.locals).start h, merged) := by
  simp only [Interpreter.interpretTo, Request.plan_of_tooLarge hoptions hsize, Globals.Store.enter,
    hlayers, Bool.false_eq_true, if_false]
  cases i.store.mergeNew r.newGlobals <;> rfl

/-- Only a call that layers global values is rejected for them. -/
lemma layers_of_rejected (hcall : i.interpretTo depth r h = (some (.error e, h'), store))
    (he : e.IsOfGlobals) : r.Layers := by
  have hresult := congrArg Prod.fst hcall
  simp only [Interpreter.interpretTo, Request.plan] at hresult
  cases hoptions : r.options with
  | error f =>
      simp only [hoptions, interpretPlanned, Option.some.injEq, Prod.mk.injEq,
        Except.error.injEq] at hresult
      exact absurd (hresult.1 ▸ he) (Failure.not_isOfGlobals_fault f)
  | ok options =>
      cases hsize : options.tooLarge r.value with
      | error f =>
          simp only [hoptions, hsize, interpretPlanned, Option.some.injEq, Prod.mk.injEq,
            Except.error.injEq] at hresult
          exact absurd (hresult.1 ▸ he) (Failure.not_isOfGlobals_fault f)
      | ok large =>
          cases large with
          | true =>
              simp only [hoptions, hsize, interpretPlanned] at hresult
              cases hresult
          | false =>
              refine ⟨options, hoptions, hsize, ?_⟩
              cases hignore : options.ignoreGlobals with
              | false => rfl
              | true =>
                  simp only [hoptions, hsize, Globals.Store.enter, hignore, if_true] at hresult
                  cases carryOut_error hresult he

/-- **Calls that are rejected for their global values.**  A call that ends in the error of a global
value has no effect on the host.  New global values of no proper shape leave the store as it was.
An entry of unknown format stands in the store by then, and every later call that layers the store
is rejected for it; if the call brought no global values, the store is as it was. -/
theorem rejected_call {i : Interpreter} {depth : ℕ} {r : Request} {h h' : Host} {e : Failure}
    {store : Globals.Store} (hcall : i.interpretTo depth r h = (some (.error e, h'), store))
    (he : e.IsOfGlobals) :
    h' = h ∧ i.Rejected r.newGlobals e store ∧ (r.newGlobals = .null → store = i.store) := by
  obtain ⟨options, hoptions, hsize, hlayers⟩ := layers_of_rejected hcall he
  rw [interpretTo_of_layers hoptions hsize hlayers] at hcall
  cases hmerge : i.store.mergeNew r.newGlobals with
  | error e' =>
      simp only [hmerge] at hcall
      obtain ⟨hresult, rfl⟩ := Prod.mk.inj hcall
      obtain ⟨rfl, rfl⟩ : e' = e ∧ h = h' := by simpa using hresult
      exact ⟨rfl, .unshaped (Globals.Store.flatten_of_mergeNew_error hmerge), fun _ => rfl⟩
  | ok merged =>
      simp only [hmerge] at hcall
      obtain ⟨hresult, rfl⟩ := Prod.mk.inj hcall
      have hglobals := carryOut_error hresult he
      rw [carryOut_of_resolutions_error hglobals] at hresult
      cases hresult
      refine ⟨rfl, .unresolved hmerge (Globals.resolutions_error hglobals he) ?_, fun hnone => ?_⟩
      · rintro later ⟨options', hoptions', hsize', hlayers'⟩ hnone depth' h'
        rw [interpretTo_of_layers hoptions' hsize' hlayers', hnone]
        exact congrArg (·, merged) (carryOut_of_resolutions_error hglobals h')
      · rw [hnone] at hmerge
        cases hmerge
        rfl

end

/-- A request that brings global values. -/
def bringing (newGlobals : Value) : Request where
  value := .text "x"
  newGlobals := newGlobals

/-- Groups of which the second maps no keys to entries. -/
def misshapenGroups : Value :=
  .list [.mapping [(.text "g", .mapping [(.text "k", .int 1)])], .mapping [(.text "h", .int 2)]]

/-- The first group is not merged either. -/
theorem rejected_call_misshapen :
    let i : Interpreter := ⟨.empty, ⟨[(.text "a", .int 0)]⟩⟩
    let e : Failure := .globalValue (.text "h") "a global value group must map keys to entries" none
    i.interpret (bringing misshapenGroups) Host.blank = (some (.error e, Host.blank), i.store) ∧
      i.Rejected misshapenGroups e i.store := by
  intro i e
  have hcall : i.interpret (bringing misshapenGroups) Host.blank =
      (some (.error e, Host.blank), i.store) := by
    cbv
  exact ⟨hcall, (rejected_call hcall ⟨_, _, _, rfl⟩).2.1⟩

/-- An entry of unknown format stays in the store, and a later call that brings no global values is
rejected for it. -/
theorem unknown_format_stays :
    let i : Interpreter := ⟨.empty, .empty⟩
    let new : Entries := [(.text "k", .mapping [(.text "format", .text "?")])]
    let e : Failure := .globalValue (.text "k") "unknown format '?'" none
    i.interpret (bringing (.mapping new)) Host.blank = (some (.error e, Host.blank), ⟨new⟩) ∧
      i.interpret (bringing .null) Host.blank = (some (.ok (.text "x"), Host.blank), i.store) ∧
      Interpreter.interpret ⟨.empty, ⟨new⟩⟩ (bringing .null) Host.blank =
        (some (.error e, Host.blank), ⟨new⟩) := by
  intro i new e
  refine ⟨?_, ?_, ?_⟩ <;> cbv

end Sigil
