/-
# The scalars within a value

A value is a tree of sequences and mappings, and its scalars are the leaves, those among the keys
included.  Writing a value fails only if an integer among them has too many digits.
-/
import Sigil.Value.Source
import Mathlib

namespace Sigil

namespace Value

mutual

/-- The values within a value that are neither sequences nor mappings, from left to right. -/
def scalars : Value → List Value
  | list items | tuple items => scalarsOfItems items
  | mapping entries => scalarsOfEntries entries
  | v => [v]

/-- The scalars within the items of a sequence. -/
def scalarsOfItems : List Value → List Value
  | [] => []
  | v :: rest => scalars v ++ scalarsOfItems rest

/-- The scalars within the entries of a mapping. -/
def scalarsOfEntries : List (Value × Value) → List Value
  | [] => []
  | (k, v) :: rest => scalars k ++ scalars v ++ scalarsOfEntries rest

end

lemma mem_scalarsOfItems {w : Value} {items : List Value} :
    w ∈ scalarsOfItems items ↔ ∃ v ∈ items, w ∈ v.scalars := by
  induction items with
  | nil => simp [scalarsOfItems]
  | cons v items ih => simp [scalarsOfItems, ih]

lemma mem_scalarsOfEntries {w : Value} {entries : Entries} :
    w ∈ scalarsOfEntries entries ↔ ∃ e ∈ entries, w ∈ e.1.scalars ∨ w ∈ e.2.scalars := by
  induction entries with
  | nil => simp [scalarsOfEntries]
  | cons e entries ih => simp [scalarsOfEntries, ih, or_assoc]

/-- No integer within the value has more digits than are written. -/
def Printable (v : Value) : Prop := ∀ n, int n ∈ v.scalars → n.natAbs < 10 ^ Decimal.digitLimit

lemma printable_items {items : List Value} :
    (∀ n, int n ∈ scalarsOfItems items → n.natAbs < 10 ^ Decimal.digitLimit) ↔
      ∀ v ∈ items, v.Printable := by
  simp only [Printable, mem_scalarsOfItems]
  constructor
  · exact fun h v hv n hn => h n ⟨v, hv, hn⟩
  · rintro h n ⟨v, hv, hn⟩
    exact h v hv n hn

lemma printable_list {items : List Value} : (list items).Printable ↔ ∀ v ∈ items, v.Printable := by
  rw [Printable, scalars, printable_items]

lemma printable_tuple {items : List Value} :
    (tuple items).Printable ↔ ∀ v ∈ items, v.Printable := by
  rw [Printable, scalars, printable_items]

lemma printable_mapping {entries : Entries} :
    (mapping entries).Printable ↔ ∀ e ∈ entries, e.1.Printable ∧ e.2.Printable := by
  simp only [Printable, scalars, mem_scalarsOfEntries]
  constructor
  · exact fun h e he => ⟨fun n hn => h n ⟨e, he, .inl hn⟩, fun n hn => h n ⟨e, he, .inr hn⟩⟩
  · rintro h n ⟨e, he, hn | hn⟩
    · exact (h e he).1 n hn
    · exact (h e he).2 n hn

end Value

lemma showInt_of_lt {n : ℤ} (h : n.natAbs < 10 ^ Decimal.digitLimit) :
    showInt n = .ok (Decimal.ofInt n) := by
  rw [showInt, Decimal.writeInt, Nat.pow_eq, if_pos h, Except.mapError]

lemma showInt_of_le {n : ℤ} (h : 10 ^ Decimal.digitLimit ≤ n.natAbs) :
    showInt n = .error (Decimal.NumeralError.fault .tooLong) := by
  rw [showInt, Decimal.writeInt, Nat.pow_eq, if_neg h.not_gt, Except.mapError]

namespace Value

mutual

/-- A printable value has a source text. -/
lemma exists_source (width : ℤ) : (v : Value) → v.Printable → ∃ s, v.source width = .ok s
  | .null, _ | .bool _, _ | .text _, _ | .object _, _ | .float _, _ | .complex _ _, _ | .bytes _, _
  | .moment _ _, _ | .day _, _ | .clock _, _ => ⟨_, rfl⟩
  | .int n, h => by
      have hn := h n (by simp [scalars])
      exact ⟨Decimal.ofInt n, by simp only [source, shown, showInt_of_lt hn]⟩
  | .list items, h => by
      obtain ⟨parts, hparts⟩ := exists_sourceItems width items (printable_list.mp h)
      exact ⟨_, by rw [source, hparts]; rfl⟩
  | .tuple items, h => by
      obtain ⟨parts, hparts⟩ := exists_sourceItems width items (printable_tuple.mp h)
      exact ⟨_, by rw [source, hparts]; rfl⟩
  | .mapping entries, h => by
      obtain ⟨parts, hparts⟩ := exists_sourceEntries width entries (printable_mapping.mp h)
      exact ⟨_, by rw [source, hparts]; rfl⟩

lemma exists_sourceItems (width : ℤ) : (items : List Value) → (∀ v ∈ items, v.Printable) →
    ∃ parts, sourceItems width items = .ok parts
  | [], _ => ⟨[], rfl⟩
  | v :: rest, h => by
      obtain ⟨part, hpart⟩ := exists_source width v (h v (by simp))
      obtain ⟨parts, hparts⟩ := exists_sourceItems width rest fun w hw => h w (by simp [hw])
      exact ⟨part :: parts, by rw [sourceItems, hpart, hparts]; rfl⟩

lemma exists_sourceEntries (width : ℤ) : (entries : List (Value × Value)) →
    (∀ e ∈ entries, e.1.Printable ∧ e.2.Printable) →
    ∃ parts, sourceEntries width entries = .ok parts
  | [], _ => ⟨[], rfl⟩
  | (k, v) :: rest, h => by
      obtain ⟨hk, hv⟩ := h (k, v) (by simp)
      obtain ⟨key, hkey⟩ := exists_source width k hk
      obtain ⟨value, hvalue⟩ := exists_source width v hv
      obtain ⟨parts, hparts⟩ := exists_sourceEntries width rest fun e he => h e (by simp [he])
      exact ⟨_, by rw [sourceEntries, hkey, hvalue, hparts]; rfl⟩

end

mutual

/-- A printable value is shown in messages. -/
lemma exists_shown : (v : Value) → v.Printable → ∃ s, v.shown = .ok s
  | .null, _ | .bool _, _ | .text _, _ | .object _, _ | .float _, _ | .complex _ _, _ | .bytes _, _
  | .moment _ _, _ | .day _, _ | .clock _, _ => ⟨_, rfl⟩
  | .int n, h => ⟨Decimal.ofInt n, showInt_of_lt (h n (by simp [scalars]))⟩
  | .list items, h => by
      obtain ⟨parts, hparts⟩ := exists_shownItems items (printable_list.mp h)
      exact ⟨_, by rw [shown, hparts]; rfl⟩
  | .tuple items, h => by
      obtain ⟨parts, hparts⟩ := exists_shownItems items (printable_tuple.mp h)
      exact ⟨_, by rw [shown, hparts]; rfl⟩
  | .mapping entries, h => by
      obtain ⟨parts, hparts⟩ := exists_shownEntries entries (printable_mapping.mp h)
      exact ⟨_, by rw [shown, hparts]; rfl⟩

lemma exists_shownItems : (items : List Value) → (∀ v ∈ items, v.Printable) →
    ∃ parts, shownItems items = .ok parts
  | [], _ => ⟨[], rfl⟩
  | v :: rest, h => by
      obtain ⟨hv, hrest⟩ := List.forall_mem_cons.mp h
      obtain ⟨part, hpart⟩ := exists_shown v hv
      obtain ⟨parts, hparts⟩ := exists_shownItems rest hrest
      exact ⟨part :: parts, by rw [shownItems, hpart, hparts]; rfl⟩

lemma exists_shownEntries : (entries : List (Value × Value)) →
    (∀ e ∈ entries, e.1.Printable ∧ e.2.Printable) → ∃ parts, shownEntries entries = .ok parts
  | [], _ => ⟨[], rfl⟩
  | (k, v) :: rest, h => by
      obtain ⟨⟨hk, hv⟩, hrest⟩ := List.forall_mem_cons.mp h
      obtain ⟨key, hkey⟩ := exists_shown k hk
      obtain ⟨value, hvalue⟩ := exists_shown v hv
      obtain ⟨parts, hparts⟩ := exists_shownEntries rest hrest
      exact ⟨_, by rw [shownEntries, hkey, hvalue, hparts]; rfl⟩

end

/-- A printable value has a plain text. -/
lemma exists_plain {v : Value} (h : v.Printable) : ∃ s, v.plain = .ok s := by
  unfold plain
  split
  case h_5 => exact exists_shown v h
  all_goals exact ⟨_, rfl⟩

end Value

end Sigil
