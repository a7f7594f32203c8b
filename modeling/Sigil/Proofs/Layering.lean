/-
# Where layered parameters come from

The functions of an expression may be pure: their values depend on the arguments, the parameters
and the surroundings alone.  A value then has a value of its own for given parameters, whatever was
interpreted before it and whoever asks for it.

Layering is done in three steps: the plain global values are taken as they are, the local parameters
are interpreted with these, and the texts of the other global values are expanded with the plain
global values overlaid by the local parameters.  Every value in the layered parameters is therefore
the value of its own entry, for parameters that do not depend on any other entry of its step, and
two layerings with the same plain global values agree on the entries that they share.
-/
import Sigil.Proofs.Entries
import Sigil.Proofs.Resolution

namespace Sigil

open Eval

/-! ### Pure functions -/

/-- What the surrounding program lends to an evaluation, without what it keeps of it. -/
def Host.surroundings (h : Host) : Host :=
  { h with journal := [], counter := 0, diagnostics := [] }

@[simp] lemma Host.surroundings_diagnose (h : Host) (parts : List String) :
    (h.diagnose parts).surroundings = h.surroundings := by
  unfold Host.diagnose
  split <;> rfl

lemma Host.getenv_of_surroundings {h g : Host} (hg : g.surroundings = h.surroundings)
    (key : String) : g.getenv key = h.getenv key := by
  have henvironment := congrArg Host.environment hg
  change g.environment = h.environment at henvironment
  rw [Host.getenv, Host.getenv?, henvironment]
  rfl

/-- A function whose values depend on the arguments, the parameters and the surroundings alone. -/
def RegistryEntry.IsPure (entry : RegistryEntry Callable) : Prop :=
  ∃ run, entry.function = .function run ∧ ∀ args params h v h',
    (run args params).run h = (.ok v, h') → h'.surroundings = h.surroundings ∧
      ∀ g : Host, g.surroundings = h.surroundings → ∃ g', (run args params).run g = (.ok v, g')

namespace Eval

/-- A value of the first step is a value of the second one wherever the surroundings are the same,
and both steps leave the surroundings as they are. -/
def Steady {α : Type} (x y : Eval α) : Prop :=
  ∀ s a t, x.run s = some (.ok a, t) → t.host.surroundings = s.host.surroundings ∧
    ∀ s', s'.host.surroundings = s.host.surroundings →
      ∃ t', y.run s' = some (.ok a, t') ∧ t'.host.surroundings = s.host.surroundings

/-- Being steady is closed under the steps of an evaluation. -/
lemma Steady.stepClosed : StepClosed fun _ x y => Steady x y where
  pure a := by
    intro s b t h
    obtain ⟨rfl, rfl⟩ : a = b ∧ s = t := by simpa using h
    exact ⟨rfl, fun s' hs' => ⟨s', rfl, hs'⟩⟩
  fail _ _ _ := by
    intro s a t h
    simp at h
  bind hx hf := by
    intro s b t h
    obtain ⟨a, u, ha, hb⟩ := run_bind_eq_ok.mp h
    obtain ⟨hu, hx'⟩ := hx s a u ha
    obtain ⟨ht, hf'⟩ := hf a u b t hb
    refine ⟨ht.trans hu, fun s' hs' => ?_⟩
    obtain ⟨u', ha', hu'⟩ := hx' s' hs'
    obtain ⟨t', hb', ht'⟩ := hf' u' (hu'.trans hu.symm)
    exact ⟨t', run_bind_eq_ok.mpr ⟨a, u', ha', hb'⟩, ht'.trans hu⟩
  getenv key := by
    intro s a t h
    obtain ⟨rfl, rfl⟩ : .text (s.host.getenv key) = a ∧ s = t := by simpa using h
    refine ⟨rfl, fun s' hs' => ⟨s', ?_, hs'⟩⟩
    rw [run_getenv, Host.getenv_of_surroundings hs' key]
  record v := by
    intro s a t h
    cases h
    exact ⟨rfl, fun s' hs' => ⟨_, rfl, hs'⟩⟩
  within frame hx := by
    intro s a t h
    obtain ⟨⟨r, u⟩, hrun, heq⟩ := Option.map_eq_some_iff.mp h
    cases heq
    obtain ⟨hu, hx'⟩ := hx _ a u hrun
    refine ⟨hu, fun s' hs' => ?_⟩
    obtain ⟨u', hrun', hu'⟩ := hx' { s' with frames := frame :: s'.frames } hs'
    exact ⟨_, run_within s' frame hrun', hu'⟩

end Eval

/-- A call is steady if what the function does is. -/
lemma invoke_steady_of_call {functions : Functions} {params : Entries} {re re' : Reentry}
    (name : String) (entry : RegistryEntry Callable) (args : List Value)
    (hcall : ∀ params, Steady (onHost (entry.function.call re args params))
      (onHost (entry.function.call re' args params))) :
    Steady (Scope.invoke ⟨functions, params, re⟩ name entry args)
      (Scope.invoke ⟨functions, params, re'⟩ name entry args) := by
  intro s v t h
  obtain ⟨host, hrun, rfl⟩ := run_invoke_eq_ok.mp h
  let noted (s : Session) : Session := { s with host := s.host.diagnose (callNote name entry args) }
  have hrun' := @run_onHost _ (noted s) _ _ _ hrun
  obtain ⟨hleft, hagain⟩ := hcall _ _ _ _ hrun'
  simp only [noted, Host.surroundings_diagnose] at hleft hagain
  refine ⟨hleft, fun s' hs' => ?_⟩
  obtain ⟨t', hcall', hleft'⟩ := hagain (noted s') (by simpa [noted] using hs')
  obtain ⟨host', hrun', rfl⟩ := run_onHost_eq_ok.mp hcall'
  exact ⟨_, run_invoke_eq_ok.mpr ⟨host', hrun', rfl⟩, hleft'⟩

/-- What a pure function does is steady, whatever the interpreter of templates. -/
lemma RegistryEntry.IsPure.steady {entry : RegistryEntry Callable} (hentry : entry.IsPure)
    (re re' : Reentry) (args : List Value) (params : Option Entries) :
    Steady (onHost (entry.function.call re args params))
      (onHost (entry.function.call re' args params)) := by
  obtain ⟨run, hrun, hpure⟩ := hentry
  have hcall (re : Reentry) : entry.function.call re args params =
      fun h => some ((run args params).run h) := by
    rw [hrun]
    rfl
  rw [hcall, hcall]
  intro s v t h
  obtain ⟨host, hrun', rfl⟩ := run_onHost_eq_ok.mp h
  obtain ⟨hleft, hagain⟩ := hpure _ _ _ v host (Option.some.inj hrun')
  refine ⟨hleft, fun s' hs' => ?_⟩
  obtain ⟨host', hcall'⟩ := hagain s'.host hs'
  exact ⟨_, run_onHost (congrArg some hcall'), (hpure _ _ _ v host' hcall').1.trans hs'⟩

/-- The calls of a pure function. -/
lemma invoke_steady {functions : Functions} {params : Entries} {re re' : Reentry} (name : String)
    {entry : RegistryEntry Callable} (hentry : entry.IsPure) (args : List Value) :
    Steady (Scope.invoke ⟨functions, params, re⟩ name entry args)
      (Scope.invoke ⟨functions, params, re'⟩ name entry args) :=
  invoke_steady_of_call name entry args (hentry.steady re re' args)

lemma Eval.Steady.mapFailure {α : Type} {x y : Eval α} (h : Steady x y) (f g : Failure → Failure) :
    Steady (mapFailure f x) (mapFailure g y) := by
  intro s a t hrun
  rw [run_mapFailure] at hrun
  obtain ⟨⟨r, u⟩, hx, heq⟩ := Option.map_eq_some_iff.mp hrun
  obtain ⟨hr, rfl⟩ := Prod.mk.inj heq
  obtain ⟨hu, hy⟩ := h s a u (except_mapError_eq_ok.mp hr ▸ hx)
  refine ⟨hu, fun s' hs' => ?_⟩
  obtain ⟨t', hrun', ht'⟩ := hy s' hs'
  refine ⟨t', ?_, ht'⟩
  rw [run_mapFailure, hrun']
  rfl

lemma Eval.Steady.diagnose (parts : Host → List String) :
    Steady (diagnose parts) (Eval.diagnose parts) := by
  intro s a t h
  rw [run_diagnose] at h
  cases h
  exact ⟨by simp, fun s' hs' => ⟨_, run_diagnose parts s', by simpa using hs'⟩⟩

/-- Being steady is closed under the steps of two runs over texts that call pure functions. -/
lemma Eval.Steady.runClosed (run run' : Run) (hfunctions : run'.functions = run.functions) :
    RunClosed (fun _ x y => Steady x y) (fun _ x y => Steady x y)
      (Names RegistryEntry.IsPure run.functions) run run' :=
  Eval.Steady.stepClosed.runClosed hfunctions
    (fun _ _ _ args hw hentry => invoke_steady _ (hw _ hentry) args) .diagnose
    fun _ h => h.mapFailure _ _

/-! ### The value of a value alone -/

/-- The value that a value has for given parameters in given surroundings, where nothing has been
interpreted before. -/
def valueAlone (functions : Functions) (surroundings : Host) (params : Entries) (v : Value) :
    Option Value :=
  match ((Run.mk functions .never .null .null).walk params v).run ⟨surroundings, []⟩ with
  | some (.ok w, _) => some w
  | _ => none

lemma valueAlone_eq_some {functions : Functions} {surroundings : Host} {params : Entries}
    {v w : Value} {t : Session}
    (h : ((Run.mk functions .never .null .null).walk params v).run ⟨surroundings, []⟩ =
      some (.ok w, t)) : valueAlone functions surroundings params v = some w := by
  rw [valueAlone, h]

section

variable {run : Run} {params : Entries} {s t : Session}

/-- A run over a value that calls pure functions gives the value that it has alone. -/
lemma walk_alone {v w : Value} (h : (run.walk params v).run s = some (.ok w, t))
    (hv : ∀ text ∈ v.strings, CallsOnly RegistryEntry.IsPure run.functions text) :
    valueAlone run.functions s.host.surroundings params v = some w ∧
      t.host.surroundings = s.host.surroundings := by
  -- alone there is no interpreter of templates, and pure functions need none
  have hsteady := walk_related (Steady.runClosed run ⟨run.functions, .never, .null, .null⟩ rfl)
    params v fun slot hslot => hv _ (List.mem_map_of_mem hslot)
  obtain ⟨ht, hagain⟩ := hsteady s w t h
  obtain ⟨t', hrun, -⟩ := hagain ⟨s.host.surroundings, []⟩ rfl
  exact ⟨valueAlone_eq_some hrun, ht⟩

/-- A key that is not interpreted. -/
def Value.IsFreeKey (key : Value) : Prop := ∀ slot ∈ key.keySlots, sigil ∉ slot.text.toList

lemma interpretKey_of_isFreeKey {key : Value} (hkey : key.IsFreeKey) :
    run.interpretKey params key = pure key := by
  cases key with
  | text x =>
      have hx : ¬ x.toList.contains sigil := by simpa [Value.IsFreeKey, Value.keySlots] using hkey
      rw [Run.interpretKey, interpretString_of_free run params hx]
      rfl
  | _ => rfl

lemma interpretKey_steady {key name : Value}
    (h : (run.interpretKey params key).run s = some (.ok name, t))
    (hkey : ∀ slot ∈ key.keySlots, CallsOnly RegistryEntry.IsPure run.functions slot.text) :
    t.host.surroundings = s.host.surroundings :=
  (interpretKey_related (Steady.runClosed run run rfl) params hkey s name t h).1

/-- The values of entries are those that they have alone, and their keys stay unless they are
interpreted. -/
lemma walkEntries_alone {entries pairs : Entries}
    (h : (run.walkEntries params entries).run s = some (.ok pairs, t))
    (hentries : ∀ slot ∈ Value.entrySlots entries,
      CallsOnly RegistryEntry.IsPure run.functions slot.text) :
    List.Forall₂ (fun e p =>
      valueAlone run.functions s.host.surroundings params e.2 = some p.2 ∧
        (e.1.IsFreeKey → p.1 = e.1)) entries pairs := by
  induction entries generalizing s pairs with
  | nil =>
      obtain ⟨rfl, -⟩ : [] = pairs ∧ s = t := by simpa [Run.walkEntries] using h
      exact .nil
  | cons e rest ih =>
      obtain ⟨key, v⟩ := e
      simp only [Value.entrySlots, List.mem_append, or_imp, forall_and] at hentries
      obtain ⟨hv, hkey, hrest⟩ := hentries
      rw [Run.walkEntries] at h
      obtain ⟨value, u, hvalue, h⟩ := run_bind_eq_ok.mp h
      obtain ⟨name, u', hname, h⟩ := run_bind_eq_ok.mp h
      obtain ⟨more, u'', hmore, h⟩ := run_bind_eq_ok.mp h
      obtain ⟨rfl, rfl⟩ : (name, value) :: more = pairs ∧ u'' = t := by simpa using h
      obtain ⟨halone, hu⟩ := walk_alone hvalue (by simpa [Value.strings] using hv)
      have hu' := (interpretKey_steady hname hkey).trans hu
      refine .cons ⟨halone, fun hfree => ?_⟩ (hu' ▸ ih hmore hrest)
      rw [interpretKey_of_isFreeKey hfree] at hname
      exact (by simpa using hname : key = name ∧ u = u').1.symm

end

/-! ### Global values -/

namespace Globals

/-- The value of a global value that needs no expansion, resolved from its own entry. -/
def plainValue? (e : Value × Value) : Option (Value × Value) :=
  match resolveEntry e.1 e.2 with
  | .ok (.value v) => some (e.1, v)
  | _ => none

/-- The values of the global values that need no expansion. -/
def plainValues (globals : Entries) : Entries := globals.filterMap plainValue?

/-- A value of an entry that depends on this entry and on the variables for its text alone. -/
def IsOwn (functions : Functions) (surroundings : Host) (bindings : Entries)
    (key entry v : Value) : Prop :=
  resolveEntry key entry = .ok (.value v) ∨
    ∃ w text, resolveEntry key entry = .ok (.deferred w) ∧ Json.render .compact w = .ok text ∧
      valueAlone functions surroundings bindings (.text text) = some v

variable {globals : Entries} {rs : List (Value × Resolution)}

lemma plainEntries_eq (h : List.Forall₂ ResolvesTo globals rs) :
    plainEntries rs = plainValues globals := by
  induction h with
  | nil => rfl
  | @cons e r _ _ he _ ih =>
      obtain ⟨key, entry⟩ := e
      obtain ⟨key', v | v⟩ := r
      · obtain ⟨rfl, hr⟩ : key' = key ∧ resolveEntry key entry = .ok (.value v) := he
        have hplain : plainValue? (key', entry) = some (key', v) := by rw [plainValue?, hr]
        rw [plainValues, List.filterMap_cons_some hplain, ← plainValues, ← ih]
        rfl
      · obtain ⟨rfl, hr⟩ : key' = key ∧ resolveEntry key entry = .ok (.deferred v) := he
        have hplain : plainValue? (key', entry) = none := by rw [plainValue?, hr]
        rw [plainValues, List.filterMap_cons_none hplain, ← plainValues, ← ih]
        rfl

end Globals

section

variable {run : Run} {s t : Session}

lemma expandAll_alone {globals out bindings : Entries} {rs : List (Value × Globals.Resolution)}
    (h : (Globals.expandAll run.expander bindings rs).run s = some (.ok out, t))
    (hrs : List.Forall₂ Globals.ResolvesTo globals rs)
    (htexts : ∀ text ∈ Globals.deferredTexts rs,
      CallsOnly RegistryEntry.IsPure run.functions text) :
    List.Forall₂ (fun e o => o.1 = e.1 ∧
      Globals.IsOwn run.functions s.host.surroundings bindings e.1 e.2 o.2) globals out := by
  induction hrs generalizing s out with
  | nil =>
      obtain ⟨rfl, -⟩ : [] = out ∧ s = t := by simpa [Globals.expandAll] using h
      exact .nil
  | @cons e r _ rest he _ ih =>
      obtain ⟨key, v | v⟩ := r
      · obtain ⟨rfl, hr⟩ := he
        rw [Globals.expandAll] at h
        obtain ⟨more, u, hmore, h⟩ := run_bind_eq_ok.mp h
        obtain ⟨rfl, rfl⟩ : (e.1, v) :: more = out ∧ u = t := by simpa using h
        exact .cons ⟨rfl, .inl hr⟩ (ih hmore htexts)
      · obtain ⟨rfl, hr⟩ := he
        rw [Globals.expandAll] at h
        obtain ⟨text, u, htext, h⟩ := run_bind_eq_ok.mp h
        obtain ⟨expanded, u', hexpanded, h⟩ := run_bind_eq_ok.mp h
        obtain ⟨more, u'', hmore, h⟩ := run_bind_eq_ok.mp h
        obtain ⟨rfl, rfl⟩ : (e.1, expanded) :: more = out ∧ u'' = t := by simpa using h
        rw [run_ofFault, Option.some.injEq, Prod.mk.injEq] at htext
        obtain ⟨htext, rfl⟩ := htext
        have hrender := except_mapError_eq_ok.mp htext
        rw [Globals.deferredTexts_cons hrender] at htexts
        have hwalk : (run.walk bindings (.text text)).run s = some (.ok expanded, u') := by
          rw [Run.walk]
          exact hexpanded
        obtain ⟨halone, hu⟩ := walk_alone hwalk
          (by simpa [Value.strings, Value.slots] using htexts text (by simp))
        exact .cons ⟨rfl, .inr ⟨v, text, hr, hrender, halone⟩⟩
          (hu ▸ ih hmore fun x hx => htexts x (by simp [hx]))

/-- The local parameters give the mapping of their interpreted entries. -/
lemma interpretLocals_ok {options : Options} (hoff : options.Unlimited) {locals bindings : Entries}
    {v : Value}
    (h : (run.interpretLocals options (.mapping locals) bindings).run s = some (.ok v, t)) :
    ∃ u pairs, u.host.surroundings = s.host.surroundings ∧
      (run.walkEntries bindings locals).run u = some (.ok pairs, t) ∧
      v = .mapping (Entries.ofPairs pairs) := by
  by_cases hlocals : locals = []
  · subst hlocals
    obtain ⟨rfl, rfl⟩ : .mapping [] = v ∧ s = t := by
      simpa [Run.interpretLocals, Value.isTruthy] using h
    exact ⟨s, [], rfl, rfl, rfl⟩
  · obtain ⟨parts, hrun⟩ := @run_interpretLocals run options hoff locals hlocals bindings s
    rw [hrun, Run.walk] at h
    obtain ⟨pairs, u, hpairs, hvalue⟩ := run_bind_eq_ok.mp h
    obtain ⟨rfl, rfl⟩ : .mapping (Entries.ofPairs pairs) = v ∧ u = t := by simpa using hvalue
    exact ⟨_, pairs, Host.surroundings_diagnose _ parts, hpairs, rfl⟩

/-- The three steps of a layering that succeeds. -/
lemma layer_ok {options : Options} (hoff : options.Unlimited) {locals globals layered : Entries}
    (h : (run.layer options (.mapping locals) globals).run s = some (.ok layered, t)) :
    ∃ rs pairs out u u', Globals.resolutions globals = .ok rs ∧
      u.host.surroundings = s.host.surroundings ∧
      (run.walkEntries (Globals.plainEntries rs) locals).run u = some (.ok pairs, u') ∧
      (Globals.expandAll run.expander
        (Entries.update (Globals.plainEntries rs) (Entries.ofPairs pairs)) rs).run u' =
          some (.ok out, t) ∧
      layered = Entries.update out (Entries.ofPairs pairs) := by
  rw [Run.layer] at h
  split at h
  · rename_i hempty
    obtain rfl : globals = [] := by simpa using hempty
    obtain ⟨v, u', hv, h⟩ := run_bind_eq_ok.mp h
    obtain ⟨u, pairs, hu, hpairs, rfl⟩ := interpretLocals_ok hoff hv
    cases h
    refine ⟨[], pairs, [], u, _, rfl, hu, hpairs, rfl, ?_⟩
    exact (Entries.ofPairs_of_distinct (Entries.distinct_ofPairs pairs)).symm
  · obtain ⟨plain, u, hplain, hlater⟩ := run_bind_eq_ok.mp h
    obtain ⟨v, u', hv, hlast⟩ := run_bind_eq_ok.mp hlater
    obtain ⟨out, u'', hout, hupdate⟩ := run_bind_eq_ok.mp hlast
    obtain ⟨w, pairs, hw, hpairs, rfl⟩ := interpretLocals_ok hoff hv
    obtain ⟨hresolve, rfl⟩ : Globals.resolvePlain (.mapping globals) = .ok plain ∧ s = u := by
      simpa using hplain
    obtain ⟨rs, hrs, rfl⟩ := Globals.resolvePlain_eq_ok hresolve
    cases hupdate
    rw [Globals.resolve_mapping hrs] at hout
    exact ⟨rs, pairs, out, w, u', hrs, hw, hpairs, hout, rfl⟩

end

/-- If no key is interpreted, the value under a key of a mapping comes from the value under this
key. -/
lemma get?_of_isFreeKey (R : Value → Value → Prop) {locals pairs : Entries} {key raw : Value}
    (h : List.Forall₂ (fun e p => R e.2 p.2 ∧ (e.1.IsFreeKey → p.1 = e.1)) locals pairs)
    (hkeys : locals.Distinct) (hfree : ∀ e ∈ locals, e.1.IsFreeKey)
    (hraw : Entries.get? locals key = some raw) :
    ∃ v, Entries.get? (Entries.ofPairs pairs) key = some v ∧ R raw v := by
  -- keys that are not interpreted stay distinct, so the pairs are the mapping that they give
  have hsame : List.Forall₂ (fun e p => p.1 = e.1 ∧ R e.2 p.2) locals pairs :=
    (List.forall₂_and_left _ _).mpr ⟨hfree, h⟩ |>.imp fun _ _ h => ⟨h.2.2 h.1, h.2.1⟩
  have hkey (e p : Value × Value) (h : p.1 = e.1 ∧ R e.2 p.2) : p.1.key = e.1.key :=
    congrArg Value.key h.1
  have hpairs : Entries.Distinct pairs := by
    rw [Entries.Distinct, Entries.map_key_of_forall₂ hsame hkey]
    exact hkeys
  obtain ⟨_, p, hp, -, hvalue⟩ := Entries.exists_get?_of_forall₂ hsame hkey hraw
  exact ⟨p.2, by rw [Entries.ofPairs_of_distinct hpairs, hp], hvalue⟩

/-- Where layered parameters come from: each value is the value of its own entry. -/
structure Layered (functions : Functions) (surroundings : Host)
    (locals globals resolved layered : Entries) : Prop where
  /-- The local parameters are interpreted with the plain global values. -/
  interpreted : valueAlone functions surroundings (Globals.plainValues globals) (.mapping locals) =
    some (.mapping resolved)
  /-- An interpreted local parameter hides the global value with its key. -/
  overlaid {key v : Value} :
    Entries.get? resolved key = some v → Entries.get? layered key = some v
  /-- If no key is interpreted, a local parameter has the value that it has alone with the plain
  global values. -/
  ofLocal {key raw : Value} : locals.Distinct → (∀ e ∈ locals, e.1.IsFreeKey) →
    Entries.get? locals key = some raw → ∃ v, Entries.get? resolved key = some v ∧
      valueAlone functions surroundings (Globals.plainValues globals) raw = some v
  /-- A plain global value that is not hidden is the value that its own entry is resolved to. -/
  ofPlain {key entry v : Value} : Entries.get? globals key = some entry →
    Entries.get? resolved key = none → Globals.resolveEntry key entry = .ok (.value v) →
      Entries.get? layered key = some v
  /-- A global value that is expanded and not hidden is the value that its own text has alone with
  the plain global values, overlaid by the interpreted local parameters. -/
  ofText {key entry w : Value} : Entries.get? globals key = some entry →
    Entries.get? resolved key = none → Globals.resolveEntry key entry = .ok (.deferred w) →
      ∃ text v, Json.render .compact w = .ok text ∧
        valueAlone functions surroundings
          (Entries.update (Globals.plainValues globals) resolved) (.text text) = some v ∧
        Entries.get? layered key = some v

/-- Global values differ in the expanded ones alone, so the plain ones are the same. -/
lemma plainValues_congr {globals globals' : Entries}
    (h : List.Forall₂ (fun e f => e = f ∨
      Globals.plainValue? e = none ∧ Globals.plainValue? f = none) globals globals') :
    Globals.plainValues globals = Globals.plainValues globals' := by
  induction h with
  | nil => rfl
  | @cons e f es fs he _ ih =>
      rw [Globals.plainValues, Globals.plainValues] at ih ⊢
      rcases he with rfl | ⟨he, hf⟩
      · rw [List.filterMap_cons, List.filterMap_cons, ih]
      · rw [List.filterMap_cons_none he, List.filterMap_cons_none hf, ih]

/-- Two layerings are alike where they have the same sources: neither other local parameters nor
other expanded global values change a parameter. -/
structure LayeredAlike (locals locals' globals globals' layered layered' : Entries) : Prop where
  /-- If no key is interpreted, a local parameter that both have. -/
  ofLocal {key raw : Value} : locals.Distinct → locals'.Distinct →
    (∀ e ∈ locals, e.1.IsFreeKey) → (∀ e ∈ locals', e.1.IsFreeKey) →
      Entries.get? locals key = some raw → Entries.get? locals' key = some raw →
        Entries.get? layered key = Entries.get? layered' key
  /-- With the same local parameters, an expanded global value that both have. -/
  ofText {key entry w : Value} : locals = locals' → Entries.get? globals key = some entry →
    Entries.get? globals' key = some entry → Globals.resolveEntry key entry = .ok (.deferred w) →
      Entries.get? layered key = Entries.get? layered' key

/-- Layerings over the same plain global values are alike. -/
lemma Layered.alike {functions : Functions} {surroundings : Host}
    {locals locals' globals globals' resolved resolved' layered layered' : Entries}
    (h : Layered functions surroundings locals globals resolved layered)
    (h' : Layered functions surroundings locals' globals' resolved' layered')
    (hplain : Globals.plainValues globals = Globals.plainValues globals') :
    LayeredAlike locals locals' globals globals' layered layered' where
  ofLocal := by
    intro key raw hkeys hkeys' hfree hfree' hraw hraw'
    obtain ⟨v, hv, halone⟩ := h.ofLocal hkeys hfree hraw
    obtain ⟨v', hv', halone'⟩ := h'.ofLocal hkeys' hfree' hraw'
    rw [hplain, halone'] at halone
    rw [h.overlaid hv, h'.overlaid hv', halone]
  ofText := by
    rintro key entry w rfl hentry hentry' hjson
    -- the same local parameters with the same variables, so both hide the same global values
    have hresolved : resolved = resolved' := by
      have hinterpreted := h.interpreted
      rw [hplain, h'.interpreted] at hinterpreted
      simpa using hinterpreted.symm
    subst hresolved
    cases hhidden : Entries.get? resolved key with
    | some v => rw [h.overlaid hhidden, h'.overlaid hhidden]
    | none =>
        obtain ⟨text, v, htext, halone, hv⟩ := h.ofText hentry hhidden hjson
        obtain ⟨text', v', htext', halone', hv'⟩ := h'.ofText hentry' hhidden hjson
        cases htext.symm.trans htext'
        rw [hplain, halone'] at halone
        rw [hv, hv', halone]

/-- Pure functions layer local parameters over global values in these surroundings, with this
result.  Values of any size are interpreted. -/
structure PurelyLayered (functions : Functions) (surroundings : Host)
    (locals globals layered : Entries) : Prop where
  /-- The functions that the local parameters call are pure. -/
  ofLocals : ∀ text ∈ (Value.mapping locals).strings, CallsOnly RegistryEntry.IsPure functions text
  /-- So are those that expanded global values call. -/
  ofGlobals : ∀ text ∈ Globals.jsonTexts globals, CallsOnly RegistryEntry.IsPure functions text
  /-- The layering succeeds. -/
  succeeds : ∃ (re : Reentry) (options : Options) (s t : Session), options.Unlimited ∧
    s.host.surroundings = surroundings ∧
      ((Run.ofLocals functions re (.mapping locals)).layer options (.mapping locals)
        globals).run s = some (.ok layered, t)

lemma PurelyLayered.layered {functions : Functions} {surroundings : Host}
    {locals globals layered : Entries}
    (h : PurelyLayered functions surroundings locals globals layered) :
    ∃ resolved, Layered functions surroundings locals globals resolved layered := by
  obtain ⟨hlocals, hglobals, re, options, s, t, hoff, rfl, h⟩ := h
  obtain ⟨rs, pairs, out, u, u', hrs, hu, hpairs, hout, rfl⟩ := layer_ok hoff h
  have hresolves := Globals.resolutions_eq_ok hrs
  have hstrings : ∀ slot ∈ (Value.mapping locals).slots,
      CallsOnly RegistryEntry.IsPure functions slot.text :=
    fun slot hslot => hlocals _ (List.mem_map_of_mem hslot)
  rw [Globals.jsonTexts, hrs] at hglobals
  rw [Globals.plainEntries_eq hresolves] at hpairs hout
  have hwalk : ((Run.ofLocals functions re (.mapping locals)).walk (Globals.plainValues globals)
      (.mapping locals)).run u = some (.ok (.mapping (Entries.ofPairs pairs)), u') := by
    rw [Run.walk, run_bind_ok hpairs]
    rfl
  have hown := walkEntries_alone hpairs hstrings
  obtain ⟨halone, hu'⟩ := walk_alone hwalk hlocals
  have hexpanded := expandAll_alone hout hresolves hglobals
  rw [hu', hu] at hexpanded
  rw [hu] at halone hown
  have hdistinct := Entries.distinct_ofPairs pairs
  have hget {key entry : Value} (hentry : Entries.get? globals key = some entry)
      (hhidden : Entries.get? (Entries.ofPairs pairs) key = none) :
      ∃ name v, Entries.get? (Entries.update out (Entries.ofPairs pairs)) key = some v ∧
        Globals.IsOwn functions s.host.surroundings
          (Entries.update (Globals.plainValues globals) (Entries.ofPairs pairs)) name entry v := by
    obtain ⟨name, o, ho, -, hown⟩ := Entries.exists_get?_of_forall₂ hexpanded
      (fun e o heo => congrArg Value.key heo.1) hentry
    exact ⟨name, o.2, by rw [Entries.get?_update hdistinct, hhidden, ho]; rfl, hown⟩
  refine ⟨Entries.ofPairs pairs, halone, fun hv => ?_, fun hkeys hfree hraw => ?_,
    fun hentry hhidden hplain => ?_, fun hentry hhidden hjson => ?_⟩
  · rw [Entries.get?_update hdistinct, hv]
    rfl
  · exact get?_of_isFreeKey (fun raw v => valueAlone functions s.host.surroundings
      (Globals.plainValues globals) raw = some v) hown hkeys hfree hraw
  · obtain ⟨name, v, hv, hown | ⟨w, text, hjson, -⟩⟩ := hget hentry hhidden
    · cases (Globals.resolveEntry_congr hplain name).symm.trans hown
      exact hv
    · cases (Globals.resolveEntry_congr hplain name).symm.trans hjson
  · obtain ⟨name, v, hv, hown | ⟨w, text, hown, htext, halone⟩⟩ := hget hentry hhidden
    · cases (Globals.resolveEntry_congr hjson name).symm.trans hown
    · cases (Globals.resolveEntry_congr hjson name).symm.trans hown
      exact ⟨text, v, htext, halone, hv⟩

/-- **The sources of layered parameters.**  Where pure functions are called, a layering that
succeeds gives every parameter the value of its own entry.  Of two such layerings with the same
plain global values, neither the other local parameters nor the other expanded global values change
a parameter. -/
theorem layer_sources {functions : Functions} {surroundings : Host}
    {locals globals layered : Entries}
    (h : PurelyLayered functions surroundings locals globals layered) :
    (∃ resolved, Layered functions surroundings locals globals resolved layered) ∧
      ∀ locals' globals' layered',
        PurelyLayered functions surroundings locals' globals' layered' →
          Globals.plainValues globals = Globals.plainValues globals' →
            LayeredAlike locals locals' globals globals' layered layered' := by
  refine ⟨h.layered, fun locals' globals' layered' h' hplain => ?_⟩
  obtain ⟨_, hlayered⟩ := h.layered
  obtain ⟨_, hlayered'⟩ := h'.layered
  exact hlayered.alike hlayered' hplain

lemma isPure_list : ∀ entry ∈ listScope.functions.entries, entry.IsPure := by
  simp only [listScope, List.mem_singleton, forall_eq]
  refine ⟨_, rfl, fun args params h v h' hrun => ?_⟩
  cases hrun
  exact ⟨rfl, fun g _ => ⟨g, rfl⟩⟩

/-- A local parameter with the key of a global value, which it does not see, among others. -/
def overlappingLocals (more : Entries) : Entries := (.text "a", .text "@list(g)") :: more

/-- Global values of which one is expanded. -/
def overlappingGlobals (v : Value) : Entries :=
  [(.text "g", .text "x"), (.text "a", .text "y"),
    (.text "j", .mapping [(.text "format", .text "json"), (.text "value", v)])]

/-- What the expanded global value gives decides on the layered parameters. -/
lemma purelyLayered_overlapping {more : Entries} {v w : Value} {text : String}
    (hmore : more = [] ∨ more = [(.text "b", .null)])
    (hresolutions : Globals.resolutions (overlappingGlobals v) =
      .ok [(.text "g", .value (.text "x")), (.text "a", .value (.text "y")),
        (.text "j", .deferred v)])
    (hrender : Json.render .compact v = .ok text)
    (hexpand : ∀ run : Run, run.functions = listScope.functions →
      (run.interpretString ([(.text "g", .text "x"), (.text "a", .list [.text "x"])] ++ more)
        text).run ⟨Host.blank, []⟩ = some (.ok w, ⟨Host.blank, []⟩)) :
    PurelyLayered listScope.functions Host.blank (overlappingLocals more) (overlappingGlobals v)
      ([(.text "g", .text "x"), (.text "a", .list [.text "x"]), (.text "j", w)] ++ more) := by
  let run := Run.ofLocals listScope.functions .never (.mapping (overlappingLocals more))
  let s : Session := ⟨Host.blank, []⟩
  let plain : Entries := [(.text "g", .text "x"), (.text "a", .text "y")]
  have hparse : Parses run.functions.isName "@list(g)" [.call "list" "@list" [.ident "g"]] :=
    except_map_eq_ok.mp (by cbv)
  have hlocal : (run.interpretString plain "@list(g)").run s =
      some (.ok (.list [.text "x"]), s) := by
    rw [interpretString_of_parses plain (by decide) hparse]
    rfl
  have hlocals : (run.interpretLocals .standard (.mapping (overlappingLocals more)) plain).run s =
      some (.ok (.mapping ((.text "a", .list [.text "x"]) :: more)), s) := by
    obtain ⟨parts, hrun⟩ := run_interpretLocals Options.unlimited_standard
      (show overlappingLocals more ≠ [] by simp [overlappingLocals]) plain s
    rw [hrun, Run.walk, overlappingLocals, Run.walkEntries, Run.walk]
    obtain rfl | rfl := hmore
    · rw [run_bind_ok (run_bind_ok hlocal _)]
      rfl
    · rw [run_bind_ok (run_bind_ok hlocal _)]
      rfl
  have hlayer := @run_layerBy run run.expander .standard (.mapping (overlappingLocals more))
    (overlappingGlobals v) _ _ _ _ (by simp [overlappingGlobals]) hresolutions hlocals
  have hpure (text : String) := callsOnly_of_forall isPure_list text
  refine ⟨fun text _ => hpure text, fun text _ => hpure text, .never, .standard, s, s,
    Options.unlimited_standard, rfl, ?_⟩
  refine hlayer.trans ?_
  simp only [Globals.expandAll, hrender, ofFault_ok, pure_bind]
  obtain rfl | rfl := hmore
  · rw [run_map, run_bind_ok (run_bind_ok (run_bind_ok (hexpand run rfl) _) _)]
    rfl
  · rw [run_map, run_bind_ok (run_bind_ok (run_bind_ok (hexpand run rfl) _) _)]
    rfl

/-- The expanded global value sees the local parameter in the place of the global value that it
hides; another local parameter and another text to expand do not change the parameters. -/
theorem layer_sources_overlapping :
    let locals := overlappingLocals []
    let locals' := overlappingLocals [(.text "b", .null)]
    let globals := overlappingGlobals (.text "@list(a)")
    let globals' := overlappingGlobals .null
    let layered : Entries := [(.text "g", .text "x"), (.text "a", .list [.text "x"]),
      (.text "j", .text "\"[[\"x\"]]\"")]
    let layered' : Entries := [(.text "g", .text "x"), (.text "a", .list [.text "x"]),
      (.text "j", .text "null"), (.text "b", .null)]
    PurelyLayered listScope.functions Host.blank locals globals layered ∧
      PurelyLayered listScope.functions Host.blank locals' globals' layered' ∧
      (∃ resolved, Layered listScope.functions Host.blank locals globals resolved layered) ∧
      LayeredAlike locals locals' globals globals' layered layered' := by
  intro locals locals' globals globals' layered layered'
  have h : PurelyLayered listScope.functions Host.blank locals globals layered := by
    refine @purelyLayered_overlapping [] (.text "@list(a)") (.text "\"[[\"x\"]]\"")
      "\"@list(a)\"" (.inl rfl) (by cbv) (by cbv) ?_
    rintro ⟨_, re, chain, process⟩ rfl
    have hparse : Parses listScope.functions.isName "\"@list(a)\""
        [.text "\"", .call "list" "@list" [.ident "a"], .text "\""] :=
      except_map_eq_ok.mp (by cbv)
    rw [interpretString_of_parses _ (by decide) hparse]
    rfl
  have h' : PurelyLayered listScope.functions Host.blank locals' globals' layered' := by
    refine @purelyLayered_overlapping [(.text "b", .null)] .null (.text "null") "null" (.inr rfl)
      (by cbv) (by cbv) fun run _ => ?_
    rw [interpretString_of_free _ _ (by decide), run_pure]
  have hplain : Globals.plainValues globals = Globals.plainValues globals' :=
    plainValues_congr (.cons (.inl rfl) (.cons (.inl rfl)
      (.cons (.inr ⟨by cbv, by cbv⟩) .nil)))
  exact ⟨h, h', (layer_sources h).1, (layer_sources h).2 locals' globals' layered' h' hplain⟩

end Sigil
