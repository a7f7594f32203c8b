/-
# Registration

What a registry answers after any calls on it, the failing ones and those on its copies included.
Its names are distinct and in lower case.  A name in lower case is its own spelling unless it begins
with the sigil, so the registry answers for exactly its names without one; a name with one is there
only if its function was registered with two.
-/
import Sigil.Interpreter.Basic
import Sigil.Proofs.LowerCase
import Sigil.Proofs.Outcome

namespace Sigil

/-! ### Spellings -/

/-- The characters of a spelling without the sigil in front. -/
def stripSigil : List Char → List Char
  | '@' :: cs => cs
  | cs => cs

/-- The name begins with the sigil. -/
def Sigiled (name : String) : Prop := ['@'] <+: name.toList

/-- The name begins with two sigils. -/
def DoublySigiled (name : String) : Prop := ['@', '@'] <+: name.toList

/-- The name is in lower case. -/
def InLowerCase (name : String) : Prop := Text.lower name.toList = name.toList

instance (name : String) : Decidable (DoublySigiled name) :=
  inferInstanceAs (Decidable (['@', '@'] <+: name.toList))

@[simp] lemma stripSigil_sigil (cs : List Char) : stripSigil ('@' :: cs) = cs := rfl

lemma stripSigil_of_not_sigiled {cs : List Char} (h : ¬ ['@'] <+: cs) : stripSigil cs = cs := by
  unfold stripSigil
  split
  · simp at h
  · rfl

lemma stripSigil_eq_self_iff {cs : List Char} : stripSigil cs = cs ↔ ¬ ['@'] <+: cs := by
  refine ⟨fun h hbegins => ?_, stripSigil_of_not_sigiled⟩
  obtain ⟨rest, rfl⟩ := hbegins
  simpa using congrArg List.length h

lemma stripSigil_subset (cs : List Char) : stripSigil cs ⊆ cs := by
  unfold stripSigil
  split
  · exact List.subset_cons_self _ _
  · exact List.Subset.refl _

lemma toList_normalizeName (name : String) :
    (normalizeName name).toList = Text.lower (stripSigil name.toList) := by
  unfold normalizeName stripSigil
  split <;> simp_all

lemma inLowerCase_normalizeName (name : String) : InLowerCase (normalizeName name) := by
  rw [InLowerCase, toList_normalizeName, Text.lower_lower]

/-- One sigil is dropped, so that the name begins with one only if the spelling begins with two. -/
lemma sigiled_normalizeName {name : String} :
    Sigiled (normalizeName name) ↔ DoublySigiled name := by
  rw [Sigiled, DoublySigiled, toList_normalizeName, Text.sigil_prefix_lower]
  by_cases h : ['@'] <+: name.toList
  · obtain ⟨rest, hrest⟩ := h
    rw [← hrest]
    simp
  · rw [stripSigil_of_not_sigiled h]
    refine iff_of_false h fun htwo => h ((List.prefix_append ['@'] ['@']).trans htwo)

/-- A name in lower case is its own spelling unless it begins with the sigil. -/
lemma normalizeName_eq_self_iff {name : String} (h : InLowerCase name) :
    normalizeName name = name ↔ ¬ Sigiled name := by
  rw [Sigiled, ← stripSigil_eq_self_iff, ← String.toList_inj, toList_normalizeName,
    Text.lower_eq_self_of_subset h (stripSigil_subset _)]

namespace Registry

variable {α : Type} {r r' : Registry α}

/-! ### Entries -/

lemma name_of_find? {key : String} {e : RegistryEntry α} (h : r.find? key = some e) :
    e.name = key := by
  simpa using List.find?_some h

lemma isName_iff {key : String} : r.isName key ↔ key ∈ r.names := by
  simp [isName, find?, names, List.find?_isSome]

lemma find?_insertEntry (e : RegistryEntry α) (es : List (RegistryEntry α)) (key : String) :
    (insertEntry e es).find? (·.name == key) =
      if e.name = key then some e else es.find? (·.name == key) := by
  induction es with
  | nil => by_cases h : e.name = key <;> simp [insertEntry, h]
  | cons e' es ih => grind [insertEntry]

lemma map_name_insertEntry (e : RegistryEntry α) (es : List (RegistryEntry α)) :
    (insertEntry e es).map (·.name) =
      if e.name ∈ es.map (·.name) then es.map (·.name) else es.map (·.name) ++ [e.name] := by
  induction es with
  | nil => rfl
  | cons e' es ih => grind [insertEntry]

/-- What a registration needs and does. -/
lemma register_eq_ok_iff {name : String} {f : α} {wants : Bool} {e : RegistryEntry α} :
    r.register name f wants = .ok (e, r') ↔
      normalizeName name ≠ "" ∧ e = ⟨normalizeName name, f, wants⟩ ∧
        r' = ⟨insertEntry e r.entries⟩ := by
  dsimp only [register]
  split
  · simp_all
  · next h =>
      have hne : normalizeName name ≠ "" := by simpa using h
      simp only [Except.ok.injEq, Prod.mk.injEq, hne, ne_eq, not_false_eq_true, true_and]
      constructor
      · rintro ⟨rfl, rfl⟩
        exact ⟨rfl, rfl⟩
      · rintro ⟨rfl, rfl⟩
        exact ⟨rfl, rfl⟩

lemma unregister_eq_ok {name : String} (h : r.unregister name = .ok r') :
    r' = ⟨r.entries.filter (·.name != normalizeName name)⟩ := by
  dsimp only [unregister] at h
  split at h
  · exact (Except.ok.inj h).symm
  · cases h

/-! ### Calls on registries -/

/-- A call that may change a registry. -/
inductive Change (α : Type) where
  /-- The registration of a function. -/
  | register (name : String) (function : α) (wantsParams : Bool)
  /-- The registration of a value that is no function. -/
  | registerValue (name : String) (v : Value)
  /-- The registration of the function of one name under another. -/
  | addAlias (name target : String)
  /-- The removal of a name. -/
  | unregister (name : String)

/-- The registry after a call, unless the call fails. -/
def Change.apply : Change α → Registry α → Except Fault (Registry α)
  | .register name function wantsParams, r => (r.register name function wantsParams).map (·.2)
  | .registerValue name v, _ => .error (notCallable name v)
  | .addAlias name target, r => (r.addAlias name target).map (·.2)
  | .unregister name, r => r.unregister name

/-- The spelling under which a call registers something. -/
def Change.spelling? : Change α → Option String
  | .register name _ _ => some name
  | .registerValue name _ => some name
  | .addAlias name _ => some name
  | .unregister _ => none

/-- What happens to the registries of a host: a call on one of them, or a copy of one. -/
inductive Step (α : Type) where
  /-- A call on a registry. -/
  | change (i : ℕ) (c : Change α)
  /-- A copy of a registry. -/
  | copy (i : ℕ)

/-- The registries after a step.  A call that fails leaves its registry as it was. -/
def Step.apply : Step α → List (Registry α) → List (Registry α)
  | .change i c, rs => rs.modify i fun r => (c.apply r).toOption.getD r
  | .copy i, rs => rs ++ rs[i]?.toList

/-- The registries after some steps, which begin with one registry that is empty. -/
def reached (steps : List (Step α)) : List (Registry α) :=
  steps.foldl (fun rs s => s.apply rs) [empty]

/-- A call that succeeds inserts an entry under the spelling it is given, or removes a name. -/
lemma Change.apply_eq_ok {c : Change α} (h : c.apply r = .ok r') :
    (∃ name e, c.spelling? = some name ∧ e.name = normalizeName name ∧
        r' = ⟨insertEntry e r.entries⟩) ∨
      ∃ key, r' = ⟨r.entries.filter (·.name != key)⟩ := by
  have hregister {name : String} {f : α} {wants : Bool}
      (h : (r.register name f wants).map (·.2) = .ok r') :
      ∃ e : RegistryEntry α, e.name = normalizeName name ∧ r' = ⟨insertEntry e r.entries⟩ := by
    obtain ⟨⟨e, r''⟩, hok, rfl⟩ := except_map_eq_ok.mp h
    obtain ⟨-, rfl, hr⟩ := register_eq_ok_iff.mp hok
    exact ⟨_, rfl, hr⟩
  cases c with
  | register name f wants =>
      obtain ⟨e, he⟩ := hregister h
      exact .inl ⟨name, e, rfl, he⟩
  | registerValue name v => cases h
  | addAlias name target =>
      rw [Change.apply, Registry.addAlias] at h
      cases hlookup : r.lookup target with
      | none =>
          rw [hlookup] at h
          cases h
      | some entry =>
          rw [hlookup] at h
          obtain ⟨e, he⟩ := hregister h
          exact .inl ⟨name, e, rfl, he⟩
  | unregister name => exact .inr ⟨_, unregister_eq_ok h⟩

section

variable {P : Registry α → Prop} {rs : List (Registry α)}

/-- A step keeps what the call keeps that it consists of. -/
lemma Step.forall_mem_apply {s : Step α} (h : ∀ r ∈ rs, P r)
    (hs : ∀ i c, s = .change i c → ∀ r r', P r → c.apply r = .ok r' → P r') :
    ∀ r ∈ s.apply rs, P r := by
  cases s with
  | change i c =>
      intro r hr
      obtain ⟨j, hj⟩ := List.mem_iff_getElem?.mp hr
      rw [Step.apply, List.getElem?_modify] at hj
      obtain ⟨before, hbefore, hafter⟩ := Option.map_eq_some_iff.mp hj
      have hP := h before (List.mem_of_getElem? hbefore)
      split at hafter
      · cases hresult : c.apply before with
        | ok r' =>
            rw [hresult] at hafter
            exact hafter ▸ hs i c rfl before r' hP hresult
        | error f =>
            rw [hresult] at hafter
            exact hafter ▸ hP
      · exact hafter ▸ hP
  | copy i =>
      -- a copy is one of the registries from before
      intro r hr
      rcases List.mem_append.mp hr with hr | hr
      · exact h r hr
      · exact h r (List.mem_of_getElem? (Option.mem_toList.mp hr))

/-- What the empty registry has and every call of a run keeps holds of all registries of the run. -/
lemma forall_mem_reached {steps : List (Step α)} (hempty : P empty)
    (hsteps : ∀ i c, .change i c ∈ steps → ∀ r r', P r → c.apply r = .ok r' → P r') :
    ∀ r ∈ reached steps, P r := by
  suffices h : ∀ rs : List (Registry α), (∀ r ∈ rs, P r) →
      ∀ r ∈ steps.foldl (fun rs s => s.apply rs) rs, P r from
    h [empty] (by simpa using hempty)
  induction steps with
  | nil => exact fun _ h => h
  | cons s steps ih =>
      intro rs hrs
      refine ih (fun i c hc => hsteps i c (List.mem_cons_of_mem s hc)) (s.apply rs) ?_
      exact Step.forall_mem_apply hrs fun i c hs => hsteps i c (hs ▸ List.mem_cons_self)

end

/-! ### Names -/

/-- The names of the registry are distinct and in lower case. -/
structure WellKept (r : Registry α) : Prop where
  /-- No name is there twice. -/
  nodup : r.names.Nodup
  /-- The names are in lower case. -/
  inLowerCase : ∀ name ∈ r.names, InLowerCase name

/-- The names after a call that succeeds are names from before, and the one that it registers. -/
lemma mem_names_of_apply {c : Change α} (h : c.apply r = .ok r') {name : String}
    (hname : name ∈ r'.names) :
    name ∈ r.names ∨ ∃ spelling, c.spelling? = some spelling ∧ name = normalizeName spelling := by
  obtain ⟨spelling, e, hspelling, he, rfl⟩ | ⟨key, rfl⟩ := Change.apply_eq_ok h
  · rw [names, map_name_insertEntry] at hname
    split at hname
    · exact .inl hname
    · rcases List.mem_append.mp hname with hname | hname
      · exact .inl hname
      · exact .inr ⟨spelling, hspelling, (List.mem_singleton.mp hname).trans he⟩
  · exact .inl ((List.filter_sublist.map _).subset hname)

lemma WellKept.apply {c : Change α} (hr : r.WellKept) (h : c.apply r = .ok r') : r'.WellKept where
  nodup := by
    obtain ⟨spelling, e, -, -, rfl⟩ | ⟨key, rfl⟩ := Change.apply_eq_ok h
    · rw [names, map_name_insertEntry]
      split
      · exact hr.nodup
      · next hnew => exact List.nodup_append.mpr ⟨hr.nodup, by simp, by grind⟩
    · exact hr.nodup.sublist (List.filter_sublist.map _)
  inLowerCase name hname := by
    rcases mem_names_of_apply h hname with hname | ⟨spelling, -, rfl⟩
    · exact hr.inLowerCase name hname
    · exact inLowerCase_normalizeName spelling

lemma wellKept_of_mem_reached {steps : List (Step α)} (h : r ∈ reached steps) : r.WellKept :=
  forall_mem_reached ⟨List.nodup_nil, by simp [names, empty]⟩ (fun _ _ _ _ _ hr => hr.apply) r h

/-- The registry contains the name and gives the entry of this name. -/
def Answers (r : Registry α) (name : String) : Prop :=
  r.contains name ∧ ∃ e, r.get name = .ok e ∧ e.name = name

lemma get_eq_ok_iff {name : String} {e : RegistryEntry α} :
    r.get name = .ok e ↔ r.lookup name = some e := by
  unfold get
  split <;> simp_all

lemma exists_find?_of_mem {name : String} (h : name ∈ r.names) :
    ∃ e, r.find? name = some e ∧ e.name = name := by
  obtain ⟨e, he⟩ := Option.isSome_iff_exists.mp (isName_iff.mpr h)
  exact ⟨e, he, name_of_find? he⟩

/-- A registry answers for exactly those of its names that have no sigil in front. -/
lemma WellKept.answers_iff (hr : r.WellKept) {name : String} (hname : name ∈ r.names) :
    r.Answers name ↔ ¬ Sigiled name := by
  rw [← normalizeName_eq_self_iff (hr.inLowerCase name hname)]
  constructor
  · rintro ⟨-, e, he, rfl⟩
    exact (name_of_find? (get_eq_ok_iff.mp he)).symm
  · intro hself
    obtain ⟨e, he, hkey⟩ := exists_find?_of_mem hname
    have hlookup : r.lookup name = some e := by rw [lookup, hself, he]
    exact ⟨by rw [contains, hlookup]; rfl, e, get_eq_ok_iff.mpr hlookup, hkey⟩

/-- After a registration the spelling finds the entry, and so does the name of the entry unless it
begins with the sigil. -/
lemma lookup_register {name : String} {f : α} {wants : Bool} {e : RegistryEntry α}
    (h : r.register name f wants = .ok (e, r')) :
    r'.lookup name = some e ∧ (r'.lookup e.name = some e ↔ ¬ Sigiled e.name) := by
  obtain ⟨-, rfl, rfl⟩ := register_eq_ok_iff.mp h
  have hfind (key : String) (hkey : normalizeName name = key) :
      find? ⟨insertEntry ⟨normalizeName name, f, wants⟩ r.entries⟩ key =
        some ⟨normalizeName name, f, wants⟩ := by
    rw [find?, find?_insertEntry, if_pos hkey]
  refine ⟨hfind _ rfl, ?_⟩
  rw [← normalizeName_eq_self_iff (inLowerCase_normalizeName name)]
  exact ⟨fun hlookup => (name_of_find? hlookup).symm, fun hself => hfind _ hself.symm⟩

end Registry

/-! ### Interpreters -/

open Registry

/-- The entries of names are those of all of them, unless one of them is not registered. -/
lemma mapM_get {α : Type} (r : Registry α) (ns : List String) :
    (∃ es, ns.mapM r.get = .ok es) ∧ (∀ name ∈ ns, r.contains name) ∨
      ∃ name ∈ ns, ¬ r.contains name ∧ ns.mapM r.get = .error (Fault.missingKey (.text name)) := by
  induction ns with
  | nil => exact .inl ⟨⟨[], rfl⟩, by simp⟩
  | cons name ns ih =>
      rw [List.mapM_cons]
      cases hlookup : r.lookup name with
      | none =>
          have hget : r.get name = .error (Fault.missingKey (.text name)) := by
            rw [Registry.get, hlookup]
          exact .inr ⟨name, List.mem_cons_self, by simp [contains, hlookup], by rw [hget]; rfl⟩
      | some e =>
          have hget : r.get name = .ok e := get_eq_ok_iff.mpr hlookup
          have hcontains : r.contains name := by simp [contains, hlookup]
          rcases ih with ⟨⟨es, hes⟩, hall⟩ | ⟨missing, hmem, hmissing, herror⟩
          · refine .inl ⟨⟨e :: es, ?_⟩, List.forall_mem_cons.mpr ⟨hcontains, hall⟩⟩
            rw [hget, hes]
            rfl
          · refine .inr ⟨missing, List.mem_cons_of_mem name hmem, hmissing, ?_⟩
            rw [hget, herror]
            rfl

/-- An interpreter is had unless a name of the registry is not contained in it. -/
lemma ofRegistry_cases (r : Functions) (store : Globals.Store) :
    Interpreter.ofRegistry r store = .ok ⟨r, store⟩ ∧ (∀ name ∈ r.names, r.contains name) ∨
      ∃ name ∈ r.names, ¬ r.contains name ∧
        Interpreter.ofRegistry r store = .error (Fault.missingKey (.text name)) := by
  rcases mapM_get r r.names with ⟨⟨es, hes⟩, hall⟩ | ⟨name, hname, hmissing, herror⟩
  · exact .inl ⟨by rw [Interpreter.ofRegistry, hes]; rfl, hall⟩
  · exact .inr ⟨name, hname, hmissing, by rw [Interpreter.ofRegistry, herror]; rfl⟩

/-- **Registries are consistent up to doubled sigils.**  After any calls on a registry and its
copies, the failing ones included, its names are distinct, and it answers for exactly those without
a sigil in front.  A registration is found under the spelling it was given, and under its name
unless the spelling begins with two sigils.  An interpreter is had unless a name with a sigil is
missing.  Where nothing is registered with two sigils, every name is answered for, and the
interpreter is had. -/
theorem registry_answers {steps : List (Step Callable)} {r : Functions} (h : r ∈ reached steps) :
    r.names.Nodup ∧ (∀ name ∈ r.names, r.Answers name ↔ ¬ Sigiled name) ∧
      (∀ name f wants e r', r.register name f wants = .ok (e, r') →
        r'.lookup name = some e ∧ (r'.lookup e.name = some e ↔ ¬ DoublySigiled name)) ∧
      (∀ store,
        Interpreter.ofRegistry r store = .ok ⟨r, store⟩ ∧ (∀ name ∈ r.names, r.contains name) ∨
        ∃ name ∈ r.names, Sigiled name ∧ ¬ r.contains name ∧
          Interpreter.ofRegistry r store = .error (Fault.missingKey (.text name))) ∧
      ((∀ i c name, .change i c ∈ steps → c.spelling? = some name → ¬ DoublySigiled name) →
        (∀ name ∈ r.names, r.Answers name) ∧
          ∀ store, Interpreter.ofRegistry r store = .ok ⟨r, store⟩) := by
  have hr := wellKept_of_mem_reached h
  refine ⟨hr.nodup, fun _ => hr.answers_iff, ?_, fun store => ?_, fun hsingle => ?_⟩
  · intro name f wants e r' hok
    obtain ⟨hspelling, hself⟩ := lookup_register hok
    obtain ⟨-, rfl, -⟩ := register_eq_ok_iff.mp hok
    exact ⟨hspelling, hself.trans (not_congr sigiled_normalizeName)⟩
  · refine (ofRegistry_cases r store).imp_right ?_
    rintro ⟨name, hname, hmissing, herror⟩
    refine ⟨name, hname, ?_, hmissing, herror⟩
    by_contra hsigil
    exact hmissing ((hr.answers_iff hname).mpr hsigil).1
  · -- the invariant of the run: no name has a sigil, as no spelling has two
    have hnames : ∀ name ∈ r.names, ¬ Sigiled name := by
      refine forall_mem_reached (P := fun r => ∀ name ∈ r.names, ¬ Sigiled name)
        (by simp [names, empty]) (fun i c hc r r' hr hok name hname => ?_) r h
      rcases mem_names_of_apply hok hname with hname | ⟨spelling, hspelling, rfl⟩
      · exact hr name hname
      · exact fun hsigil => hsingle i c spelling hc hspelling (sigiled_normalizeName.mp hsigil)
    have hanswers (name : String) (hname : name ∈ r.names) : r.Answers name :=
      (hr.answers_iff hname).mpr (hnames name hname)
    refine ⟨hanswers, fun store => ?_⟩
    rcases ofRegistry_cases r store with ⟨hok, -⟩ | ⟨name, hname, hmissing, -⟩
    · exact hok
    · exact absurd (hanswers name hname).1 hmissing

/-- A copy keeps the name that the registry loses, and a call that fails leaves the registry. -/
theorem registry_answers_copy :
    let r : Functions := ⟨[⟨"sum", .forEach, false⟩]⟩
    let steps : List (Step Callable) :=
      [.change 0 (.register "@Sum" .forEach false), .copy 0, .change 0 (.unregister "SUM"),
        .change 0 (.addAlias "total" "sum")]
    r ∈ reached steps ∧ r.Answers "sum" ∧ Interpreter.ofRegistry r ⟨[]⟩ = .ok ⟨r, ⟨[]⟩⟩ := by
  intro r steps
  have hreached : reached steps = [empty, r] := by cbv
  have hmem : r ∈ reached steps := by
    rw [hreached]
    exact List.mem_cons_of_mem _ List.mem_cons_self
  have hsingle : ∀ i c name, .change i c ∈ steps → c.spelling? = some name →
      ¬ DoublySigiled name := by
    intro i c name hc hname
    simp only [steps, List.mem_cons, List.not_mem_nil, or_false, Step.change.injEq, reduceCtorEq,
      false_or] at hc
    rcases hc with ⟨-, rfl⟩ | ⟨-, rfl⟩ | ⟨-, rfl⟩ <;> cases hname <;> decide
  obtain ⟨hanswers, hinterpreter⟩ := (registry_answers hmem).2.2.2.2 hsingle
  exact ⟨hmem, hanswers "sum" List.mem_cons_self, hinterpreter ⟨[]⟩⟩

/-- A function that is registered with two sigils has a name that its registry does not contain, and
no interpreter is had. -/
theorem doublySigiled_missing :
    let r : Functions := ⟨[⟨"@x", .forEach, false⟩]⟩
    reached [.change 0 (.register "@@x" .forEach false)] = [r] ∧ "@x" ∈ r.names ∧
      r.contains "@x" = false ∧
      Interpreter.ofRegistry r ⟨[]⟩ = .error (Fault.missingKey (.text "@x")) := by
  refine ⟨by cbv, List.mem_singleton_self _, by decide, ?_⟩
  rfl

end Sigil
