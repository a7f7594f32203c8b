/-
# Mappings

The value under a key after a binding and after an update, and mappings no two keys of which are the
same key: these are the mappings that pairs give, and an update keeps them so.
-/
import Mathlib
import Sigil.Value.Key

namespace Sigil.Entries

/-- No two keys are the same key. -/
def Distinct (es : Entries) : Prop := (es.map fun e => e.1.key).Nodup

variable {es more : Entries} {key v : Value}

@[simp] lemma get?_nil (key : Value) : get? [] key = none := rfl

lemma get?_cons (e : Value × Value) (es : Entries) (key : Value) :
    get? (e :: es) key = if e.1.key = key.key then some e.2 else get? es key := by
  unfold get?
  by_cases h : e.1.key = key.key
  · rw [List.find?_cons_of_pos (by simpa using h), if_pos h]
    rfl
  · rw [List.find?_cons_of_neg (by simpa using h), if_neg h]

lemma get?_eq_none_iff : get? es key = none ↔ key.key ∉ es.map fun e => e.1.key := by
  induction es with
  | nil => simp
  | cons e rest ih =>
      rw [get?_cons, List.map_cons, List.mem_cons, not_or, ← ih]
      by_cases h : e.1.key = key.key
      · simp [h]
      · simp [h, Ne.symm h]

/-- A binding changes the value under its key alone. -/
lemma get?_put (es : Entries) (key v other : Value) :
    get? (put es key v) other = if key.key = other.key then some v else get? es other := by
  induction es with
  | nil => rw [put, get?_cons]
  | cons e rest ih =>
      rw [put]
      by_cases h : e.1.key = key.key
      · rw [if_pos (by simpa using h), get?_cons, get?_cons, h]
        split <;> rfl
      · rw [if_neg (by simpa using h), get?_cons, get?_cons, ih]
        by_cases hother : e.1.key = other.key
        · rw [if_pos hother, if_pos hother, if_neg fun hkey => h (hother.trans hkey.symm)]
        · rw [if_neg hother, if_neg hother]

lemma map_key_put (es : Entries) (key v : Value) :
    (put es key v).map (fun e => e.1.key) =
      if key.key ∈ es.map fun e => e.1.key then es.map fun e => e.1.key
      else (es.map fun e => e.1.key) ++ [key.key] := by
  induction es with
  | nil => rfl
  | cons e rest ih =>
      rw [put]
      by_cases h : e.1.key = key.key
      · rw [if_pos (by simpa using h), if_pos (by simp [h])]
        rfl
      · rw [if_neg (by simpa using h), List.map_cons, ih, List.map_cons]
        simp only [List.mem_cons, Ne.symm h, false_or]
        split <;> rfl

lemma Distinct.put (h : es.Distinct) (key v : Value) : (put es key v).Distinct := by
  rw [Distinct, map_key_put]
  split
  · exact h
  · rename_i hnew
    refine List.nodup_append.mpr ⟨h, by simp, ?_⟩
    rintro a ha b hb rfl
    exact hnew (List.mem_singleton.mp hb ▸ ha)

lemma update_cons (es more : Entries) (e : Value × Value) :
    update es (e :: more) = update (put es e.1 e.2) more := rfl

lemma Distinct.update (h : es.Distinct) (more : Entries) : (update es more).Distinct := by
  induction more generalizing es with
  | nil => exact h
  | cons e rest ih => exact ih (h.put e.1 e.2)

lemma distinct_ofPairs (pairs : List (Value × Value)) : (ofPairs pairs).Distinct :=
  @Distinct.update [] List.nodup_nil pairs

/-- An update hides what it binds, and nothing else. -/
lemma get?_update (h : more.Distinct) (es : Entries) (key : Value) :
    get? (update es more) key = (get? more key).or (get? es key) := by
  induction more generalizing es with
  | nil => simp [update]
  | cons e rest ih =>
      obtain ⟨hnew, hrest⟩ := List.nodup_cons.mp h
      rw [update_cons, ih hrest, get?_put, get?_cons]
      by_cases hkey : e.1.key = key.key
      · have hnone : get? rest key = none := get?_eq_none_iff.mpr (hkey ▸ hnew)
        simp [hkey, hnone]
      · simp [hkey]

lemma put_of_not_mem (h : key.key ∉ es.map fun e => e.1.key) (v : Value) :
    put es key v = es ++ [(key, v)] := by
  induction es with
  | nil => rfl
  | cons e rest ih =>
      rw [List.map_cons, List.mem_cons, not_or] at h
      rw [put, if_neg (by simpa using Ne.symm h.1), ih h.2]
      rfl

lemma update_eq_append (h : Distinct (es ++ more)) : update es more = es ++ more := by
  induction more generalizing es with
  | nil => exact (List.append_nil es).symm
  | cons e rest ih =>
      have hnew : e.1.key ∉ es.map fun e => e.1.key := by
        rw [Distinct, List.map_append, List.nodup_append] at h
        exact fun hmem => h.2.2 _ hmem _ (by simp) rfl
      have happend : es ++ e :: rest = es ++ [e] ++ rest := by simp
      rw [update_cons, put_of_not_mem hnew, ih (happend ▸ h), happend]

/-- Pairs of which no two have the same key are their own mapping. -/
lemma ofPairs_of_distinct (h : es.Distinct) : ofPairs es = es := update_eq_append h

/-! ### Updates that are repeated -/

section

variable {k w : Value}

/-- The later of two bindings of one key is the one that counts. -/
lemma put_put_of_key_eq (h : k.key = key.key) (hmem : k.key ∈ es.map fun e => e.1.key) :
    put (put es key v) k w = put es k w := by
  induction es with
  | nil => simp at hmem
  | cons e rest ih =>
      by_cases he : e.1.key = key.key
      · simp [put, he, h]
      · have hrest : k.key ∈ rest.map fun e => e.1.key := by
          simpa [h, Ne.symm he] using hmem
        simp [put, he, h, ih hrest]

/-- Bindings of two keys may be exchanged if the second one is present already. -/
lemma put_comm (h : k.key ≠ key.key) (hmem : k.key ∈ es.map fun e => e.1.key) :
    put (put es key v) k w = put (put es k w) key v := by
  induction es with
  | nil => simp at hmem
  | cons e rest ih =>
      by_cases he : e.1.key = key.key
      · have hk : ¬ e.1.key = k.key := fun hk => h (hk.symm.trans he)
        simp [put, he, Ne.symm h]
      · by_cases hk : e.1.key = k.key
        · simp [put, h, hk]
        · have hrest : k.key ∈ rest.map fun e => e.1.key := by
            simpa [Ne.symm hk] using hmem
          simp [put, he, hk, ih hrest]

lemma mem_keys_put (h : k.key ∈ es.map fun e => e.1.key) :
    k.key ∈ (put es key v).map fun e => e.1.key := by
  rw [map_key_put]
  split
  · exact h
  · exact List.mem_append_left _ h

lemma update_append (es more last : Entries) :
    update es (more ++ last) = update (update es more) last :=
  List.foldl_append

lemma put_put_self (es : Entries) (key v : Value) : put (put es key v) key v = put es key v := by
  induction es with
  | nil => simp [put]
  | cons e rest ih =>
      by_cases he : e.1.key = key.key
      · simp [put, he]
      · simp [put, he, ih]

/-- A binding that is repeated after an update of keys that are present makes no difference. -/
lemma put_update_put (hmem : ∀ e ∈ more, e.1.key ∈ es.map fun e => e.1.key) :
    put (update (put es key v) more) key v = put (update es more) key v := by
  induction more generalizing es with
  | nil => exact put_put_self es key v
  | cons e rest ih =>
      obtain ⟨he, hrest⟩ := List.forall_mem_cons.mp hmem
      rw [update_cons, update_cons]
      by_cases hkey : e.1.key = key.key
      · rw [put_put_of_key_eq hkey he]
      · rw [put_comm hkey he, ih fun e' he' => mem_keys_put (hrest e' he')]

lemma mem_keys_update (h : k.key ∈ es.map fun e => e.1.key) (more : Entries) :
    k.key ∈ (update es more).map fun e => e.1.key := by
  induction more generalizing es with
  | nil => exact h
  | cons e rest ih => exact ih (mem_keys_put h)

/-- An update binds its keys. -/
lemma mem_keys_update_of_mem {e : Value × Value} (he : e ∈ more) (es : Entries) :
    e.1.key ∈ (update es more).map fun e => e.1.key := by
  induction more generalizing es with
  | nil => cases he
  | cons first rest ih =>
      rw [update_cons]
      rcases List.mem_cons.mp he with rfl | he
      · refine mem_keys_update ?_ rest
        rw [map_key_put]
        split
        · assumption
        · simp
      · exact ih he _

/-- An update that is repeated changes nothing. -/
lemma update_update (es more : Entries) : update (update es more) more = update es more := by
  induction more using List.reverseRecOn with
  | nil => rfl
  | append_singleton more e ih =>
      have hmem := fun e' he' => @mem_keys_update_of_mem more e' he' es
      have hput : update (update es more) [e] = put (update es more) e.1 e.2 := rfl
      rw [update_append, update_append, hput]
      change put (update (put (update es more) e.1 e.2) more) e.1 e.2 = _
      rw [put_update_put hmem, ih]

/-- The key that came first stays, with the value that came last. -/
lemma put_put_of_same (h : k.key = key.key) (es : Entries) (w v : Value) :
    put (put es k w) key v = put es k v := by
  induction es with
  | nil => simp [put, h]
  | cons e rest ih =>
      by_cases he : e.1.key = k.key
      · simp [put, he, h]
      · have hkey : ¬ e.1.key = key.key := fun hkey => he (hkey.trans h.symm)
        simp [put, he, hkey, ih]

/-- A key that is present may be bound before an update that does not bind it. -/
lemma put_update_of_not_mem (hnew : key.key ∉ more.map fun e => e.1.key)
    (hmem : key.key ∈ es.map fun e => e.1.key) (v : Value) :
    put (update es more) key v = update (put es key v) more := by
  induction more generalizing es with
  | nil => rfl
  | cons e rest ih =>
      rw [List.map_cons, List.mem_cons, not_or] at hnew
      rw [update_cons, update_cons, ih hnew.2 (mem_keys_put hmem), put_comm hnew.1 hmem]

/-- A binding of the update is one after the update. -/
lemma update_put (h : more.Distinct) (es : Entries) (key v : Value) :
    update es (put more key v) = put (update es more) key v := by
  induction more generalizing es with
  | nil => rfl
  | cons e rest ih =>
      obtain ⟨hnew, hrest⟩ := List.nodup_cons.mp h
      by_cases he : e.1.key = key.key
      · have hmem : key.key ∈ (put es e.1 e.2).map fun e => e.1.key := by
          rw [← he, map_key_put]
          split
          · assumption
          · simp
        rw [put, if_pos (by simpa using he), update_cons, update_cons,
          put_update_of_not_mem (he ▸ hnew) hmem, put_put_of_same he]
      · rw [put, if_neg (by simpa using he), update_cons, update_cons, ih hrest]

lemma ofPairs_concat (pairs : List (Value × Value)) (e : Value × Value) :
    ofPairs (pairs ++ [e]) = put (ofPairs pairs) e.1 e.2 := update_append [] pairs [e]

/-- A mapping of pairs updates as the pairs do. -/
lemma update_ofPairs (es : Entries) (pairs : List (Value × Value)) :
    update es (ofPairs pairs) = update es pairs := by
  induction pairs using List.reverseRecOn with
  | nil => rfl
  | append_singleton pairs e ih =>
      rw [ofPairs_concat, update_put (distinct_ofPairs pairs), ih, update_append]
      rfl

/-- Of several pairs with one key the last one counts. -/
lemma get?_ofPairs (pairs : List (Value × Value)) (key : Value) :
    get? (ofPairs pairs) key = get? pairs.reverse key := by
  induction pairs using List.reverseRecOn with
  | nil => rfl
  | append_singleton pairs e ih =>
      rw [ofPairs_concat, get?_put, List.reverse_append, List.reverse_singleton,
        List.singleton_append, get?_cons, ih]

/-- Of several pairs with one key the first one gives the place. -/
lemma map_key_ofPairs (pairs : List (Value × Value)) :
    ((ofPairs pairs).map fun e => e.1.key) = (pairs.map fun e => e.1.key).eraseDups := by
  induction pairs using List.reverseRecOn with
  | nil => rfl
  | append_singleton pairs e ih =>
      rw [ofPairs_concat, map_key_put, ih, List.map_append, List.eraseDups_append,
        List.map_singleton]
      by_cases hmem : e.1.key ∈ pairs.map fun e => e.1.key
      · rw [if_pos (List.mem_eraseDups.mpr hmem), List.removeAll,
          List.filter_cons_of_neg (by simpa using hmem),
          List.filter_nil, List.eraseDups_nil, List.append_nil]
      · rw [if_neg (hmem ∘ List.mem_eraseDups.mp), List.removeAll,
          List.filter_cons_of_pos (by simpa using hmem), List.filter_nil]
        rfl

/-- An update keeps the keys that are there, in their places. -/
lemma keys_prefix_update (es more : Entries) : es.keys <+: (update es more).keys := by
  induction more generalizing es with
  | nil => exact List.prefix_rfl
  | cons e rest ih =>
      have hput : es.keys <+: (put es e.1 e.2).keys := by
        induction es with
        | nil => exact List.nil_prefix
        | cons e' es ih =>
            rw [put]
            split
            · exact List.prefix_rfl
            · exact List.cons_prefix_cons.mpr ⟨rfl, ih⟩
      exact hput.trans (ih _)

end

section

variable {R : Value × Value → Value × Value → Prop} {fs : Entries}

lemma map_key_of_forall₂ (h : List.Forall₂ R es fs) (hkey : ∀ e f, R e f → f.1.key = e.1.key) :
    (fs.map fun f => f.1.key) = es.map fun e => e.1.key := by
  induction h with
  | nil => rfl
  | cons he _ ih => rw [List.map_cons, List.map_cons, hkey _ _ he, ih]

/-- Of two mappings that agree on their keys entry by entry, the values under a key stem from the
same entry. -/
lemma exists_get?_of_forall₂ (h : List.Forall₂ R es fs) (hkey : ∀ e f, R e f → f.1.key = e.1.key)
    (hget : get? es key = some v) :
    ∃ k f, get? fs key = some f.2 ∧ R (k, v) f := by
  induction h with
  | nil => simp at hget
  | @cons e f es fs he _ ih =>
      rw [get?_cons] at hget ⊢
      rw [hkey e f he]
      split at hget
      · obtain rfl : e.2 = v := by simpa using hget
        exact ⟨e.1, f, if_pos ‹_›, he⟩
      · rw [if_neg ‹_›]
        exact ih hget

end

end Sigil.Entries
