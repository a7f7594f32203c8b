/-
# The shapes of global values

Global values are a mapping, or a sequence of groups that map their names to entries.  Flattening
refuses everything else, with an error that tells of the first part without a proper shape.
-/
import Sigil.Proofs.Rejection

namespace Sigil.Globals

/-- The global values have no proper shape; the error tells of the first part without one. -/
inductive Misshapen (globals : Value) : Failure → Prop
  | registry : globals ≠ .null → globals.entries? = none → globals.items? = none →
      Misshapen globals (.globalValue (.text globals.typeName)
        "registry must be a mapping or a sequence of single-key mappings" none)
  | namespaced {before after : List Value} {group : Value} {es : Entries} {name : String} :
      globals.items? = some (before ++ group :: after) → namespaces before = .ok es →
      group.entries? = none → group.shown = .ok name →
      Misshapen globals (.globalValue (.text name)
        "namespaced global values must be mappings of group -> entries" none)
  | group {before after : List Value} {first rest es es' : Entries} {key value : Value}
      {name : String} :
      globals.items? = some (before ++ .mapping (first ++ (key, value) :: rest) :: after) →
      namespaces before = .ok es → groups first = .ok es' → value.entries? = none →
      key.plain = .ok name →
      Misshapen globals (.globalValue (.text name)
        "a global value group must map keys to entries" none)

section

variable {e : Failure}

lemma not_textOf_error (he : e.IsOfGlobals) (r : Except Fault String) : textOf r ≠ .error e := by
  intro h
  obtain ⟨f, -, rfl⟩ := except_mapError_eq_error.mp h
  exact Failure.not_isOfGlobals_fault f he

lemma not_groupEntries_error (he : e.IsOfGlobals) (group : Value) (inner : Entries) :
    groupEntries group inner ≠ .error e := by
  induction inner with
  | nil => simp [groupEntries]
  | cons first rest ih =>
      intro h
      obtain h | ⟨k, -, h⟩ := except_bind_eq_error.mp h
      · obtain h | ⟨g, -, h⟩ := except_bind_eq_error.mp h
        · exact not_textOf_error he _ h
        · obtain h | ⟨k, -, h⟩ := except_bind_eq_error.mp h
          · exact not_textOf_error he _ h
          · cases h
      · obtain h | ⟨more, -, h⟩ := except_bind_eq_error.mp h
        · exact ih h
        · cases h

lemma groups_cons_mapping (group : Value) (inner rest : Entries) :
    groups ((group, .mapping inner) :: rest) = (groupEntries group inner >>= fun first =>
      groups rest >>= fun more => pure (first ++ more)) := rfl

lemma groups_cons_of_entries? {v : Value} (h : v.entries? = none) (group : Value)
    (rest : Entries) :
    groups ((group, v) :: rest) = (textOf group.plain >>= fun name =>
      problem (.text name) "a global value group must map keys to entries") := by
  cases v <;> first
    | rfl
    | simp [Value.entries?] at h

lemma namespaces_cons_mapping (inner : Entries) (rest : List Value) :
    namespaces (.mapping inner :: rest) = (groups inner >>= fun first =>
      namespaces rest >>= fun more => pure (first ++ more)) := rfl

lemma namespaces_cons_of_entries? {v : Value} (h : v.entries? = none) (rest : List Value) :
    namespaces (v :: rest) = (textOf v.shown >>= fun name =>
      problem (.text name) "namespaced global values must be mappings of group -> entries") := by
  cases v <;> first
    | rfl
    | simp [Value.entries?] at h

lemma eq_mapping_of_entries? {v : Value} {es : Entries} (h : v.entries? = some es) :
    v = .mapping es := by
  cases v <;> simp_all [Value.entries?]

/-- A key that is a text is shown. -/
lemma problem_of_text {α : Type} (name text : String) :
    (problem (.text name) text : Except Failure α) =
      .error (.globalValue (.text name) text none) := rfl

/-- The error of naming a part that has a text. -/
lemma named_problem {r : Except Fault String} {text : String} (he : e.IsOfGlobals) :
    (textOf r >>= fun name => (problem (.text name) text : Except Failure Entries)) = .error e ↔
      ∃ name, r = .ok name ∧ e = .globalValue (.text name) text none := by
  rw [except_bind_eq_error]
  constructor
  · rintro (h | ⟨name, hname, h⟩)
    · exact absurd h (not_textOf_error he r)
    · rw [problem_of_text] at h
      exact ⟨name, except_mapError_eq_ok.mp hname, (Except.error.inj h).symm⟩
  · rintro ⟨name, hname, rfl⟩
    exact .inr ⟨name, except_mapError_eq_ok.mpr hname, rfl⟩

lemma groups_append_of_ok {first more es : Entries} (h : groups first = .ok es)
    (hmore : groups more = .error e) : groups (first ++ more) = .error e := by
  induction first generalizing es with
  | nil => exact hmore
  | cons entry first ih =>
      obtain ⟨key, value⟩ := entry
      cases hvalue : value.entries? with
      | none =>
          rw [groups_cons_of_entries? hvalue] at h
          obtain ⟨name, -, h⟩ := except_bind_eq_ok.mp h
          cases h
      | some inner =>
          obtain rfl := eq_mapping_of_entries? hvalue
          obtain ⟨front, hfront, h⟩ := except_bind_eq_ok.mp h
          obtain ⟨rest, hrest, -⟩ := except_bind_eq_ok.mp h
          rw [List.cons_append, groups_cons_mapping]
          exact except_bind_eq_error.mpr
            (.inr ⟨front, hfront, except_bind_eq_error.mpr (.inl (ih hrest))⟩)

/-- The first group that maps no keys to entries. -/
lemma groups_error_iff {inner : Entries} (he : e.IsOfGlobals) :
    groups inner = .error e ↔ ∃ first key value rest es name,
      inner = first ++ (key, value) :: rest ∧ groups first = .ok es ∧ value.entries? = none ∧
      key.plain = .ok name ∧
      e = .globalValue (.text name) "a global value group must map keys to entries" none := by
  constructor
  · intro h
    induction inner with
    | nil => cases h
    | cons entry rest ih =>
        obtain ⟨key, value⟩ := entry
        cases hvalue : value.entries? with
        | none =>
            rw [groups_cons_of_entries? hvalue, named_problem he] at h
            obtain ⟨name, hname, heq⟩ := h
            exact ⟨[], key, value, rest, [], name, rfl, rfl, hvalue, hname, heq⟩
        | some entries =>
            obtain rfl := eq_mapping_of_entries? hvalue
            rw [groups_cons_mapping] at h
            obtain h | ⟨front, hfront, h⟩ := except_bind_eq_error.mp h
            · exact absurd h (not_groupEntries_error he key entries)
            · obtain h | ⟨more, -, h⟩ := except_bind_eq_error.mp h
              · obtain ⟨first, key', value', rest, es, name, rfl, hfirst, htail⟩ := ih h
                refine ⟨(key, .mapping entries) :: first, key', value', rest, front ++ es, name,
                  rfl, ?_, htail⟩
                rw [groups_cons_mapping, hfront, hfirst]
                rfl
              · cases h
  · rintro ⟨first, key, value, rest, es, name, rfl, hfirst, hvalue, hname, rfl⟩
    refine groups_append_of_ok hfirst ?_
    rw [groups_cons_of_entries? hvalue, named_problem he]
    exact ⟨name, hname, rfl⟩

lemma namespaces_append_of_ok {first more : List Value} {es : Entries}
    (h : namespaces first = .ok es) (hmore : namespaces more = .error e) :
    namespaces (first ++ more) = .error e := by
  induction first generalizing es with
  | nil => exact hmore
  | cons group first ih =>
      cases hgroup : group.entries? with
      | none =>
          rw [namespaces_cons_of_entries? hgroup] at h
          obtain ⟨name, -, h⟩ := except_bind_eq_ok.mp h
          cases h
      | some inner =>
          obtain rfl := eq_mapping_of_entries? hgroup
          obtain ⟨front, hfront, h⟩ := except_bind_eq_ok.mp h
          obtain ⟨rest, hrest, -⟩ := except_bind_eq_ok.mp h
          rw [List.cons_append, namespaces_cons_mapping]
          exact except_bind_eq_error.mpr
            (.inr ⟨front, hfront, except_bind_eq_error.mpr (.inl (ih hrest))⟩)

/-- The first part of a sequence of groups that has no proper shape. -/
lemma namespaces_error_iff {items : List Value} (he : e.IsOfGlobals) :
    namespaces items = .error e ↔ ∃ before group after es, items = before ++ group :: after ∧
      namespaces before = .ok es ∧
      ((∃ name, group.entries? = none ∧ group.shown = .ok name ∧ e = .globalValue (.text name)
        "namespaced global values must be mappings of group -> entries" none) ∨
        ∃ inner, group = .mapping inner ∧ groups inner = .error e) := by
  constructor
  · intro h
    induction items with
    | nil => cases h
    | cons group rest ih =>
        cases hgroup : group.entries? with
        | none =>
            rw [namespaces_cons_of_entries? hgroup, named_problem he] at h
            obtain ⟨name, hname, heq⟩ := h
            exact ⟨[], group, rest, [], rfl, rfl, .inl ⟨name, hgroup, hname, heq⟩⟩
        | some inner =>
            obtain rfl := eq_mapping_of_entries? hgroup
            rw [namespaces_cons_mapping] at h
            obtain h | ⟨front, hfront, h⟩ := except_bind_eq_error.mp h
            · exact ⟨[], _, rest, [], rfl, rfl, .inr ⟨inner, rfl, h⟩⟩
            · obtain h | ⟨more, -, h⟩ := except_bind_eq_error.mp h
              · obtain ⟨before, group, after, es, rfl, hbefore, htail⟩ := ih h
                refine ⟨.mapping inner :: before, group, after, front ++ es, rfl, ?_, htail⟩
                rw [namespaces_cons_mapping, hfront, hbefore]
                rfl
              · cases h
  · rintro ⟨before, group, after, es, rfl, hbefore, hgroup⟩
    refine namespaces_append_of_ok hbefore ?_
    obtain ⟨name, hnone, hname, rfl⟩ | ⟨inner, rfl, hinner⟩ := hgroup
    · rw [namespaces_cons_of_entries? hnone, named_problem he]
      exact ⟨name, hname, rfl⟩
    · rw [namespaces_cons_mapping, hinner]
      rfl

/-- A sequence of groups is refused for its first part that has no proper shape. -/
lemma namespaces_error_iff_misshapen {globals : Value} {items : List Value}
    (hitems : globals.items? = some items) (he : e.IsOfGlobals) :
    namespaces items = .error e ↔ Misshapen globals e := by
  rw [namespaces_error_iff he]
  constructor
  · rintro ⟨before, group, after, es, rfl, hbefore, ⟨name, hnone, hname, rfl⟩ | ⟨inner, rfl, h⟩⟩
    · exact .namespaced hitems hbefore hnone hname
    · obtain ⟨first, key, value, rest, es', name, rfl, hfirst, hvalue, hname, rfl⟩ :=
        (groups_error_iff he).mp h
      exact .group hitems hbefore hfirst hvalue hname
  · intro h
    cases h with
    | registry _ _ hnone => simp [hitems] at hnone
    | @namespaced before after group es name hsome hbefore hnone hname =>
        obtain rfl := Option.some.inj (hitems.symm.trans hsome)
        exact ⟨before, group, after, es, rfl, hbefore, .inl ⟨name, hnone, hname, rfl⟩⟩
    | @group before after first rest es es' key value name hsome hbefore hfirst hvalue hname =>
        obtain rfl := Option.some.inj (hitems.symm.trans hsome)
        exact ⟨before, _, after, es, rfl, hbefore, .inr ⟨_, rfl, (groups_error_iff he).mpr
          ⟨first, key, value, rest, es', name, rfl, hfirst, hvalue, hname, rfl⟩⟩⟩

/-- Flattening refuses what has no proper shape. -/
lemma flatten_error_iff {globals : Value} (he : e.IsOfGlobals) :
    flatten globals = .error e ↔ Misshapen globals e := by
  have hmap {r : Except Failure Entries} : r.map Entries.ofPairs = .error e ↔ r = .error e := by
    cases r <;> simp [Except.map]
  cases globals with
  | list items => exact hmap.trans (namespaces_error_iff_misshapen rfl he)
  | tuple items => exact hmap.trans (namespaces_error_iff_misshapen rfl he)
  | null | mapping _ =>
      simp only [flatten, reduceCtorEq, false_iff]
      intro h
      cases h <;> simp_all [Value.items?, Value.entries?]
  | _ =>
      constructor
      · intro h
        cases h
        exact .registry (by simp) rfl rfl
      · intro h
        cases h with
        | registry => rfl
        | namespaced hitems => simp [Value.items?] at hitems
        | group hitems => simp [Value.items?] at hitems

end

end Sigil.Globals
