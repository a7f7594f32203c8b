/-
# Accumulating global values

What a store holds after any merges.  A registry defines a list of entries, those of a sequence of
groups under their prefixed keys.  After several merges each key has the entry of its last
definition and the place of its first one, so nothing is dropped, and the groups of a sequence may
be merged in one go or one after the other.

A registry without a proper shape is refused, and so is one whose parts have no text: the key of a
group is the text of two keys, and the error that refuses a part shows it.  An integer may have too
many digits for that, and then the merge fails with the fault of the integer.
-/
import Sigil.Proofs.Entries
import Sigil.Proofs.Scalars
import Sigil.Proofs.Shapes

namespace Sigil.Globals

/-! ### Definitions -/

/-- The value maps the names of groups to mappings. -/
def IsGroups (v : Value) : Prop :=
  ∃ inner, v.entries? = some inner ∧ ∀ e ∈ inner, ∃ entries, e.2.entries? = some entries

/-- The global values are absent, or a mapping, or a sequence of groups. -/
inductive WellShaped : Value → Prop
  | absent : WellShaped .null
  | flat (entries : Entries) : WellShaped (.mapping entries)
  | namespaced {v : Value} {items : List Value} : v.items? = some items →
      (∀ group ∈ items, IsGroups group) → WellShaped v

/-- A place in a sequence of groups: the name of the group, the key in it, and the entry. -/
abbrev Place := Value × Value × Value

/-- The places in a mapping of groups, in order. -/
def groupPlaces (inner : Entries) : List Place :=
  inner.flatMap fun e => ((e.2.entries?).getD []).map fun entry => (e.1, entry)

/-- The places in a sequence of groups, in order. -/
def places (items : List Value) : List Place :=
  items.flatMap fun group => groupPlaces ((group.entries?).getD [])

/-- The definition that stands at a place: its key is the text of the name of the group and that of
the key. -/
def DefinedAt (place : Place) (d : Value × Value) : Prop :=
  ∃ g k, place.1.plain = .ok g ∧ place.2.1.plain = .ok k ∧ d = (.text (g ++ "_" ++ k), place.2.2)

/-- The global values define these entries, in this order; a key may be defined more than once. -/
inductive Defines : Value → Entries → Prop
  | absent : Defines .null []
  | flat (entries : Entries) : Defines (.mapping entries) entries
  | namespaced {v : Value} {items : List Value} {ds : Entries} : v.items? = some items →
      (∀ group ∈ items, IsGroups group) → List.Forall₂ DefinedAt (places items) ds → Defines v ds

lemma Defines.wellShaped {v : Value} {ds : Entries} (h : Defines v ds) : WellShaped v := by
  cases h with
  | absent => exact .absent
  | flat => exact .flat _
  | namespaced hitems hgroups => exact .namespaced hitems hgroups

lemma WellShaped.isGroups {v : Value} {items : List Value} (h : WellShaped v)
    (hitems : v.items? = some items) : ∀ group ∈ items, IsGroups group := by
  cases h with
  | absent => cases hitems
  | flat => cases hitems
  | namespaced hsome hgroups => exact Option.some.inj (hsome.symm.trans hitems) ▸ hgroups

/-- The part that an error tells of has no proper shape. -/
lemma Misshapen.not_wellShaped {v : Value} {e : Failure} (h : Misshapen v e) : ¬ WellShaped v := by
  intro hshape
  cases h with
  | registry hnull hentries hnone =>
      cases hshape with
      | absent => exact hnull rfl
      | flat => cases hentries
      | namespaced hitems => simp [hnone] at hitems
  | @namespaced before after group _ _ hitems _ hnone =>
      obtain ⟨inner, hinner, -⟩ := hshape.isGroups hitems group (by simp)
      simp [hnone] at hinner
  | @group before after first rest _ _ key value _ hitems _ _ hnone =>
      obtain ⟨inner, hinner, hentries⟩ :=
        hshape.isGroups hitems (.mapping (first ++ (key, value) :: rest)) (by simp)
      obtain rfl := Option.some.inj hinner
      obtain ⟨entries, hvalue⟩ := hentries (key, value) (by simp)
      simp [hnone] at hvalue

/-! ### Flattening -/

lemma forall₂_append_left_iff {α β : Type} {R : α → β → Prop} {as more : List α} {bs : List β} :
    List.Forall₂ R (as ++ more) bs ↔
      ∃ first rest, List.Forall₂ R as first ∧ List.Forall₂ R more rest ∧ first ++ rest = bs := by
  induction as generalizing bs with
  | nil => simp [List.forall₂_nil_left_iff]
  | cons a as ih =>
      simp only [List.cons_append, List.forall₂_cons_left_iff, ih]
      constructor
      · rintro ⟨b, _, hab, ⟨first, rest, hfirst, hrest, rfl⟩, rfl⟩
        exact ⟨b :: first, rest, ⟨b, first, hab, hfirst, rfl⟩, hrest, rfl⟩
      · rintro ⟨_, rest, ⟨b, first, hab, hfirst, rfl⟩, hrest, rfl⟩
        exact ⟨b, first ++ rest, hab, ⟨first, rest, hfirst, hrest, rfl⟩, rfl⟩

lemma groupKey_eq_ok_iff {group key k : Value} :
    groupKey group key = .ok k ↔ ∃ g s, group.plain = .ok g ∧ key.plain = .ok s ∧
      k = .text (g ++ "_" ++ s) := by
  simp only [groupKey, textOf, except_bind_eq_ok, except_mapError_eq_ok, pure, Except.pure,
    Except.ok.injEq]
  constructor
  · rintro ⟨g, hg, s, hs, rfl⟩
    exact ⟨g, s, hg, hs, rfl⟩
  · rintro ⟨g, s, hg, hs, rfl⟩
    exact ⟨g, hg, s, hs, rfl⟩

/-- The keys of a group are prefixed one by one. -/
lemma groupEntries_eq_ok_iff {group : Value} {entries ds : Entries} :
    groupEntries group entries = .ok ds ↔
      List.Forall₂ DefinedAt (entries.map fun entry => (group, entry)) ds := by
  induction entries generalizing ds with
  | nil => simp [groupEntries, List.forall₂_nil_left_iff, eq_comm]
  | cons entry rest ih =>
      obtain ⟨key, entry⟩ := entry
      rw [groupEntries, List.map_cons, List.forall₂_cons_left_iff]
      simp only [except_bind_eq_ok, groupKey_eq_ok_iff, ih, pure, Except.pure, Except.ok.injEq]
      constructor
      · rintro ⟨_, ⟨g, s, hg, hs, rfl⟩, more, hmore, rfl⟩
        exact ⟨_, more, ⟨g, s, hg, hs, rfl⟩, hmore, rfl⟩
      · rintro ⟨_, more, ⟨g, s, hg, hs, rfl⟩, hmore, rfl⟩
        exact ⟨_, ⟨g, s, hg, hs, rfl⟩, more, hmore, rfl⟩

lemma groups_eq_ok_iff {inner ds : Entries} :
    groups inner = .ok ds ↔ (∀ e ∈ inner, ∃ entries, e.2.entries? = some entries) ∧
      List.Forall₂ DefinedAt (groupPlaces inner) ds := by
  induction inner generalizing ds with
  | nil => simp [groups, groupPlaces, List.forall₂_nil_left_iff, eq_comm]
  | cons e rest ih =>
      obtain ⟨group, v⟩ := e
      have hplaces : groupPlaces ((group, v) :: rest) =
          ((v.entries?).getD []).map (fun entry => (group, entry)) ++ groupPlaces rest := by
        simp [groupPlaces]
      rw [List.forall_mem_cons, hplaces, forall₂_append_left_iff]
      cases hv : v.entries? with
      | none =>
          rw [groups_cons_of_entries? hv]
          simp [except_bind_eq_ok, problem]
      | some entries =>
          obtain rfl := eq_mapping_of_entries? hv
          rw [groups_cons_mapping]
          simp only [except_bind_eq_ok, groupEntries_eq_ok_iff, ih, pure, Except.pure,
            Except.ok.injEq, Option.getD_some]
          constructor
          · rintro ⟨first, hfirst, more, ⟨hall, hmore⟩, rfl⟩
            exact ⟨⟨⟨entries, rfl⟩, hall⟩, first, more, hfirst, hmore, rfl⟩
          · rintro ⟨⟨-, hall⟩, first, more, hfirst, hmore, rfl⟩
            exact ⟨first, hfirst, more, ⟨hall, hmore⟩, rfl⟩

lemma namespaces_eq_ok_iff {items : List Value} {ds : Entries} :
    namespaces items = .ok ds ↔
      (∀ group ∈ items, IsGroups group) ∧ List.Forall₂ DefinedAt (places items) ds := by
  induction items generalizing ds with
  | nil => simp [namespaces, places, List.forall₂_nil_left_iff, eq_comm]
  | cons group rest ih =>
      have hplaces : places (group :: rest) =
          groupPlaces ((group.entries?).getD []) ++ places rest := by
        simp [places]
      rw [List.forall_mem_cons, hplaces, forall₂_append_left_iff]
      cases hgroup : group.entries? with
      | none =>
          rw [namespaces_cons_of_entries? hgroup]
          simp [except_bind_eq_ok, problem, IsGroups, hgroup]
      | some inner =>
          obtain rfl := eq_mapping_of_entries? hgroup
          have hgroups : IsGroups (.mapping inner) ↔
              ∀ e ∈ inner, ∃ entries, e.2.entries? = some entries := by
            simp [IsGroups, Value.entries?]
          rw [namespaces_cons_mapping, hgroups]
          simp only [except_bind_eq_ok, groups_eq_ok_iff, ih, pure, Except.pure, Except.ok.injEq,
            Option.getD_some]
          constructor
          · rintro ⟨first, ⟨hinner, hfirst⟩, more, ⟨hall, hmore⟩, rfl⟩
            exact ⟨⟨hinner, hall⟩, first, more, hfirst, hmore, rfl⟩
          · rintro ⟨⟨hinner, hall⟩, first, more, hfirst, hmore, rfl⟩
            exact ⟨first, ⟨hinner, hfirst⟩, more, ⟨hall, hmore⟩, rfl⟩

/-! ### Merges -/

lemma merge_map {s : Store} {r : Except Failure Entries} :
    (r.map Entries.ofPairs).map (fun entries => (⟨Entries.update s.entries entries⟩ : Store)) =
      r.map fun ds => ⟨Entries.update s.entries ds⟩ := by
  cases r with
  | error e => rfl
  | ok ds => simp only [Except.map, Entries.update_ofPairs]

/-- A merge of a sequence of groups binds their definitions. -/
lemma merge_of_items? {v : Value} {items : List Value} (hitems : v.items? = some items)
    (s : Store) :
    s.merge v = (namespaces items).map fun ds => ⟨Entries.update s.entries ds⟩ := by
  cases v with
  | list =>
      obtain rfl := Option.some.inj hitems
      exact merge_map
  | tuple =>
      obtain rfl := Option.some.inj hitems
      exact merge_map
  | _ => cases hitems

/-- A merge that succeeds binds what the global values define, in order. -/
lemma merge_eq_ok_iff {s s' : Store} {v : Value} :
    s.merge v = .ok s' ↔ ∃ ds, Defines v ds ∧ s' = ⟨Entries.update s.entries ds⟩ := by
  cases hitems : v.items? with
  | some items =>
      -- lists and tuples of groups are merged alike
      rw [merge_of_items? hitems, except_map_eq_ok]
      simp only [namespaces_eq_ok_iff]
      constructor
      · rintro ⟨ds, ⟨hgroups, hds⟩, rfl⟩
        exact ⟨ds, .namespaced hitems hgroups hds, rfl⟩
      · rintro ⟨ds, hdefines, rfl⟩
        cases hdefines with
        | absent => cases hitems
        | flat => cases hitems
        | namespaced hitems' hgroups hds =>
            obtain rfl := Option.some.inj (hitems.symm.trans hitems')
            exact ⟨ds, ⟨hgroups, hds⟩, rfl⟩
  | none =>
      have hnone {ds : Entries} (h : Defines v ds) : flatten v = .ok ds := by
        cases h with
        | absent => rfl
        | flat => rfl
        | namespaced hitems' => simp [hitems] at hitems'
      constructor
      · intro h
        obtain ⟨ds, hflatten, rfl⟩ := except_map_eq_ok.mp h
        refine ⟨ds, ?_, rfl⟩
        cases v with
        | null =>
            cases hflatten
            exact .absent
        | mapping =>
            cases hflatten
            exact .flat _
        | list | tuple => cases hitems
        | _ => cases hflatten
      · rintro ⟨ds, hdefines, rfl⟩
        rw [Store.merge, hnone hdefines]
        rfl

/-- A merge that fails does so because the global values are not flattened. -/
lemma merge_eq_error_iff {s : Store} {v : Value} {e : Failure} :
    s.merge v = .error e ↔ flatten v = .error e := by
  rw [Store.merge]
  cases flatten v <;> simp [Except.map]

/-! ### Failures -/

/-- If the step fails, then with an error of the global values. -/
abbrev FailsOfGlobals {α : Type} (r : Except Failure α) : Prop := FailsOnly Failure.IsOfGlobals r

lemma failsOfGlobals_problem {α : Type} (name text : String) :
    FailsOfGlobals (problem (.text name) text : Except Failure α) := by
  intro e h
  cases h
  exact ⟨_, _, _, rfl⟩

lemma failsOfGlobals_textOf {r : Except Fault String} (h : ∃ s, r = .ok s) :
    FailsOfGlobals (textOf r) := by
  obtain ⟨s, rfl⟩ := h
  exact failsOnly_ok s

lemma failsOfGlobals_groupEntries {group : Value} {entries : Entries} (hgroup : group.Printable)
    (h : ∀ e ∈ entries, e.1.Printable ∧ e.2.Printable) :
    FailsOfGlobals (groupEntries group entries) := by
  induction entries with
  | nil => exact failsOnly_ok _
  | cons e rest ih =>
      obtain ⟨he, hrest⟩ := List.forall_mem_cons.mp h
      have hkey : FailsOfGlobals (groupKey group e.1) :=
        (failsOfGlobals_textOf (Value.exists_plain hgroup)).bind fun _ =>
          (failsOfGlobals_textOf (Value.exists_plain he.1)).bind fun _ => failsOnly_ok _
      exact hkey.bind fun _ => (ih hrest).bind fun _ => failsOnly_ok _

lemma failsOfGlobals_groups {inner : Entries} (h : ∀ e ∈ inner, e.1.Printable ∧ e.2.Printable) :
    FailsOfGlobals (groups inner) := by
  induction inner with
  | nil => exact failsOnly_ok _
  | cons e rest ih =>
      obtain ⟨group, v⟩ := e
      obtain ⟨⟨hgroup, hv⟩, hrest⟩ := List.forall_mem_cons.mp h
      cases hentries : v.entries? with
      | none =>
          rw [groups_cons_of_entries? hentries]
          exact (failsOfGlobals_textOf (Value.exists_plain hgroup)).bind fun _ =>
            failsOfGlobals_problem _ _
      | some entries =>
          obtain rfl := eq_mapping_of_entries? hentries
          rw [groups_cons_mapping]
          exact (failsOfGlobals_groupEntries hgroup (Value.printable_mapping.mp hv)).bind fun _ =>
            (ih hrest).bind fun _ => failsOnly_ok _

lemma failsOfGlobals_namespaces {items : List Value} (h : ∀ group ∈ items, group.Printable) :
    FailsOfGlobals (namespaces items) := by
  induction items with
  | nil => exact failsOnly_ok _
  | cons group rest ih =>
      obtain ⟨hgroup, hrest⟩ := List.forall_mem_cons.mp h
      cases hentries : group.entries? with
      | none =>
          rw [namespaces_cons_of_entries? hentries]
          exact (failsOfGlobals_textOf (Value.exists_shown group hgroup)).bind fun _ =>
            failsOfGlobals_problem _ _
      | some inner =>
          obtain rfl := eq_mapping_of_entries? hentries
          rw [namespaces_cons_mapping]
          exact (failsOfGlobals_groups (Value.printable_mapping.mp hgroup)).bind fun _ =>
            (ih hrest).bind fun _ => failsOnly_ok _

/-- Flattening printable global values fails only for their shape. -/
lemma failsOfGlobals_flatten {v : Value} (h : v.Printable) : FailsOfGlobals (flatten v) := by
  cases v with
  | null | mapping => exact failsOnly_ok _
  | list => exact (failsOfGlobals_namespaces (Value.printable_list.mp h)).map _
  | tuple => exact (failsOfGlobals_namespaces (Value.printable_tuple.mp h)).map _
  | _ => exact failsOfGlobals_problem _ _

/-! ### Several merges -/

/-- The store after a merge, whether it succeeds or not. -/
def Store.attempt (s : Store) (v : Value) : Store :=
  match s.merge v with
  | .ok t => t
  | .error _ => s

/-- The store after several merges. -/
def Store.attemptAll (s : Store) (vs : List Value) : Store := vs.foldl Store.attempt s

/-- What a merge of the global values adds: their definitions, or nothing if they have none. -/
def Contributes (v : Value) (ds : Entries) : Prop :=
  Defines v ds ∨ (∀ ds', ¬ Defines v ds') ∧ ds = []

lemma exists_contributes (v : Value) : ∃ ds, Contributes v ds := by
  by_cases h : ∃ ds, Defines v ds
  · obtain ⟨ds, hds⟩ := h
    exact ⟨ds, .inl hds⟩
  · exact ⟨[], .inr ⟨not_exists.mp h, rfl⟩⟩

lemma exists_forall₂_contributes (vs : List Value) : ∃ dss, List.Forall₂ Contributes vs dss := by
  induction vs with
  | nil => exact ⟨[], .nil⟩
  | cons v vs ih =>
      obtain ⟨ds, hds⟩ := exists_contributes v
      obtain ⟨dss, hdss⟩ := ih
      exact ⟨ds :: dss, .cons hds hdss⟩

/-- A merge that is not well defined fails. -/
lemma exists_merge_error {v : Value} (h : ∀ ds, ¬ Defines v ds) (s : Store) :
    ∃ e, s.merge v = .error e := by
  cases hmerge : s.merge v with
  | error e => exact ⟨e, rfl⟩
  | ok t =>
      obtain ⟨ds, hds, -⟩ := merge_eq_ok_iff.mp hmerge
      exact absurd hds (h ds)

lemma Store.attempt_of_error {s : Store} {v : Value} {e : Failure} (h : s.merge v = .error e) :
    s.attempt v = s := by
  rw [attempt, h]

lemma Store.attempt_eq {v : Value} {ds : Entries} (h : Contributes v ds) (s : Store) :
    s.attempt v = ⟨Entries.update s.entries ds⟩ := by
  obtain hds | ⟨hnone, rfl⟩ := h
  · rw [attempt, merge_eq_ok_iff.mpr ⟨ds, hds, rfl⟩]
  · obtain ⟨e, he⟩ := exists_merge_error hnone s
    rw [attempt_of_error he]
    rfl

/-- Several merges bind what they add, one after the other. -/
lemma Store.attemptAll_eq {vs : List Value} {dss : List Entries}
    (h : List.Forall₂ Contributes vs dss) (s : Store) :
    s.attemptAll vs = ⟨Entries.update s.entries dss.flatten⟩ := by
  induction h generalizing s with
  | nil => rfl
  | cons hds _ ih =>
      rw [attemptAll, List.foldl_cons, attempt_eq hds, ← attemptAll, ih, List.flatten_cons,
        Entries.update_append]

/-- The places of the keys stay, whatever is merged. -/
lemma Store.keys_prefix_attemptAll (s : Store) (vs : List Value) :
    s.entries.keys <+: (s.attemptAll vs).entries.keys := by
  obtain ⟨dss, hdss⟩ := exists_forall₂_contributes vs
  rw [attemptAll_eq hdss]
  exact Entries.keys_prefix_update _ _

/-- The groups of a sequence are flattened one after the other. -/
lemma namespaces_append (first more : List Value) :
    namespaces (first ++ more) = (namespaces first >>= fun ds =>
      namespaces more >>= fun ds' => pure (ds ++ ds')) := by
  induction first with
  | nil => exact (bind_pure _).symm
  | cons group first ih =>
      cases hgroup : group.entries? with
      | none =>
          rw [List.cons_append, namespaces_cons_of_entries? hgroup,
            namespaces_cons_of_entries? hgroup, bind_assoc]
          rfl
      | some inner =>
          obtain rfl := eq_mapping_of_entries? hgroup
          rw [List.cons_append, namespaces_cons_mapping, namespaces_cons_mapping, ih]
          simp only [bind_assoc, pure_bind, List.append_assoc]

/-- Two sequences of groups are merged one after the other as in one go. -/
lemma merge_append {a b c : Value} {as bs : List Value} (ha : a.items? = some as)
    (hb : b.items? = some bs) (hc : c.items? = some (as ++ bs)) (s : Store) :
    s.merge c = s.merge a >>= fun t => t.merge b := by
  rw [merge_of_items? hc, merge_of_items? ha, namespaces_append]
  simp only [merge_of_items? hb]
  cases namespaces as with
  | error e => rfl
  | ok ds =>
      cases namespaces bs with
      | error e => rfl
      | ok ds' =>
          simp only [Except.map, bind, Except.bind, pure, Except.pure, Entries.update_append]

/-- **The store accumulates.**  After any merges, the failing ones included, each key has the entry
of its last definition, the keys stand in the order of their first definitions, and no key is ever
lost.  A merge binds what the global values define, and well-shaped ones define something if they
are printable.  A merge of others fails and changes nothing; its error tells of the first part
without a proper shape, unless an integer has too many digits to be written.  Two sequences of
groups are merged one after the other as in one go. -/
theorem store_accumulates (s : Store) (vs more : List Value) (v : Value) :
    (∃ dss, List.Forall₂ Contributes vs dss ∧
      (∀ key, Entries.get? (Store.empty.attemptAll vs).entries key =
        Entries.get? dss.flatten.reverse key) ∧
      ((Store.empty.attemptAll vs).entries.map fun e => e.1.key) =
        (dss.flatten.map fun d => d.1.key).eraseDups) ∧
    (s.attemptAll vs).entries.keys <+: (s.attemptAll (vs ++ more)).entries.keys ∧
    (∀ ds, Defines v ds → s.merge v = .ok ⟨Entries.update s.entries ds⟩) ∧
    (WellShaped v → v.Printable → ∃ ds, Defines v ds) ∧
    (¬ WellShaped v → ∃ e, s.merge v = .error e ∧ s.attempt v = s ∧
      (v.Printable ∨ e.IsOfGlobals → Misshapen v e)) ∧
    (∀ a b as bs, a.items? = some as → b.items? = some bs → v.items? = some (as ++ bs) →
      s.merge v = s.merge a >>= fun t => t.merge b) := by
  refine ⟨?last, ?kept, fun ds hds => merge_eq_ok_iff.mpr ⟨ds, hds, rfl⟩, fun hshape hv => ?defined,
    fun hshape => ?refused, fun a b as bs ha hb hv => merge_append ha hb hv s⟩
  case last =>
    obtain ⟨dss, hdss⟩ := exists_forall₂_contributes vs
    have hentries : (Store.empty.attemptAll vs).entries = Entries.ofPairs dss.flatten :=
      congrArg Store.entries (Store.attemptAll_eq hdss _)
    refine ⟨dss, hdss, fun key => ?_, ?_⟩
    · rw [hentries, Entries.get?_ofPairs]
    · rw [hentries, Entries.map_key_ofPairs]
  case kept =>
    have happend : s.attemptAll (vs ++ more) = (s.attemptAll vs).attemptAll more :=
      List.foldl_append
    rw [happend]
    exact Store.keys_prefix_attemptAll _ _
  case defined =>
    cases hmerge : Store.empty.merge v with
    | ok t =>
        obtain ⟨ds, hds, -⟩ := merge_eq_ok_iff.mp hmerge
        exact ⟨ds, hds⟩
    | error e =>
        -- a printable value fails with an error of its shape only, and it has a proper shape
        have hflatten := merge_eq_error_iff.mp hmerge
        have he := failsOfGlobals_flatten hv e hflatten
        exact absurd hshape ((flatten_error_iff he).mp hflatten).not_wellShaped
  case refused =>
    obtain ⟨e, he⟩ := exists_merge_error (fun ds hds => hshape hds.wellShaped) s
    have hflatten := merge_eq_error_iff.mp he
    refine ⟨e, he, Store.attempt_of_error he, fun h => (flatten_error_iff ?_).mp hflatten⟩
    exact h.elim (fun hv => failsOfGlobals_flatten hv e hflatten) id

/-- A group whose prefixed key is there already, and one of the same name that has it again, after a
text that is refused. -/
theorem store_accumulates_collisions :
    let s := Store.empty.attemptAll [.mapping [(.text "g_k", .text "1")], .text "x"]
    let first : Value := .list [.mapping [(.text "g", .mapping [(.text "k", .text "2")])]]
    let second : Value :=
      .list [.mapping [(.text "g", .mapping [(.text "j", .null), (.text "k", .text "3")])]]
    let both : Value :=
      .list [.mapping [(.text "g", .mapping [(.text "k", .text "2")])],
        .mapping [(.text "g", .mapping [(.text "j", .null), (.text "k", .text "3")])]]
    s.entries = [(.text "g_k", .text "1")] ∧
      (∃ e, s.merge (.text "x") = .error e ∧ s.attempt (.text "x") = s ∧
        Misshapen (.text "x") e) ∧
      (∃ ds, Defines both ds ∧ s.merge both = .ok ⟨Entries.update s.entries ds⟩) ∧
      s.merge both = (s.merge first >>= fun t => t.merge second) ∧
      s.merge both = .ok ⟨[(.text "g_k", .text "3"), (.text "g_j", .null)]⟩ := by
  intro s first second both
  obtain ⟨-, -, hmerge, hdefined, -, happend⟩ := store_accumulates s [] [] both
  obtain ⟨-, -, -, -, hrefused, -⟩ := store_accumulates s [] [] (.text "x")
  have hboth : WellShaped both := .namespaced rfl (by simp [IsGroups, Value.entries?])
  have hprintable : both.Printable := by
    simp [both, Value.Printable, Value.scalars, Value.scalarsOfItems, Value.scalarsOfEntries]
  have htext : ¬ WellShaped (.text "x") := by
    rintro (- | - | ⟨hitems, -⟩)
    cases hitems
  obtain ⟨ds, hds⟩ := hdefined hboth hprintable
  obtain ⟨e, he, hstays, hmisshapen⟩ := hrefused htext
  exact ⟨by cbv, ⟨e, he, hstays, hmisshapen (.inl (by simp [Value.Printable, Value.scalars]))⟩,
    ⟨ds, hds, hmerge ds hds⟩, happend first second _ _ rfl rfl rfl, by cbv⟩

/-- A sequence with an integer of too many digits in the place of a group has no proper shape, and
its merge fails with the fault of the integer. -/
theorem long_integer_escapes :
    let v : Value := .list [.int ((10 ^ Decimal.digitLimit : ℕ) : ℤ)]
    ¬ WellShaped v ∧
      Store.empty.merge v = .error (.fault (Decimal.NumeralError.fault .tooLong)) ∧
      (Decimal.NumeralError.fault .tooLong).kind = .value := by
  intro v
  refine ⟨?_, ?_, rfl⟩
  · intro h
    obtain ⟨inner, hinner, -⟩ := h.isGroups rfl _ (List.mem_singleton_self _)
    cases hinner
  · have hshown : (Value.int ((10 ^ Decimal.digitLimit : ℕ) : ℤ)).shown =
        .error (Decimal.NumeralError.fault .tooLong) := by
      rw [Value.shown]
      exact showInt_of_le (Int.natAbs_natCast _).ge
    rw [merge_of_items? rfl, namespaces_cons_of_entries? rfl, hshown]
    rfl

end Sigil.Globals
