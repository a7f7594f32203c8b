/-
# Occurrences of a text

The occurrences of a text that are found from left to right, each behind the one before, cut another
text into parts.  Replacing the first of them, or all, puts the parts together again with the
replacement between them.
-/
import Mathlib
import Sigil.Text.Search

namespace Sigil.Text

/-! ### The first occurrence -/

/-- No occurrence begins before the one between the two parts. -/
def Leftmost (sought part rest : List Char) : Prop :=
  ∀ pre post, pre ++ sought ++ post = part ++ sought ++ rest → part.length ≤ pre.length

section

variable {sought part rest s : List Char} {c : Char}

lemma leftmost_nil (sought rest : List Char) : Leftmost sought [] rest :=
  fun pre _ _ => Nat.zero_le pre.length

lemma Leftmost.not_prefix (h : Leftmost sought (c :: part) rest) :
    ¬ sought <+: c :: (part ++ sought ++ rest) := by
  rintro ⟨post, hpost⟩
  have hle := h [] post hpost
  simp at hle

lemma Leftmost.tail (h : Leftmost sought (c :: part) rest) : Leftmost sought part rest := by
  intro pre post heq
  have hle := h (c :: pre) post (congrArg (c :: ·) heq)
  simpa using hle

lemma Leftmost.cons (hnot : ¬ sought <+: c :: (part ++ sought ++ rest))
    (h : Leftmost sought part rest) : Leftmost sought (c :: part) rest := by
  intro pre post heq
  cases pre with
  | nil => exact absurd ⟨post, heq⟩ hnot
  | cons d pre =>
      have hle := h pre post (List.cons.inj heq).2
      simpa using hle

/-- A text that occurs has a first occurrence. -/
lemma exists_leftmost (h : sought <:+: s) :
    ∃ part rest, s = part ++ sought ++ rest ∧ Leftmost sought part rest := by
  induction s with
  | nil =>
      obtain rfl := List.infix_nil.mp h
      exact ⟨[], [], rfl, leftmost_nil [] []⟩
  | cons c s ih =>
      by_cases hprefix : sought <+: c :: s
      · obtain ⟨rest, hrest⟩ := hprefix
        exact ⟨[], rest, hrest.symm, leftmost_nil sought rest⟩
      · obtain ⟨part, rest, rfl, hleft⟩ := ih ((List.infix_cons_iff.mp h).resolve_left hprefix)
        exact ⟨c :: part, rest, rfl, .cons hprefix hleft⟩

lemma find?_eq_none (h : ¬ sought <:+: s) : find? sought s = none := by
  induction s with
  | nil =>
      have hne : sought ≠ [] := fun hnil => h (hnil ▸ List.nil_infix)
      simp [find?, hne]
  | cons c s ih =>
      rw [List.infix_cons_iff, not_or] at h
      simp [find?, h.1, ih h.2]

lemma Leftmost.find?_eq (h : Leftmost sought part rest) :
    find? sought (part ++ sought ++ rest) = some part.length := by
  induction part with
  | nil =>
      cases hs : sought ++ rest with
      | nil =>
          obtain ⟨rfl, rfl⟩ := List.append_eq_nil_iff.mp hs
          rfl
      | cons d t =>
          have hprefix : sought <+: d :: t := ⟨rest, hs⟩
          rw [List.nil_append, hs]
          simp [find?, hprefix]
  | cons c part ih =>
      rw [List.cons_append, List.cons_append, find?, if_neg (by simpa using h.not_prefix),
        ih h.tail]
      rfl

end

/-! ### All occurrences -/

/-- The parts of a text between the occurrences of another that are found from left to right. -/
inductive Parted (sought : List Char) : List Char → List (List Char) → Prop
  /-- Nothing is found. -/
  | last {s : List Char} (h : ¬ sought <:+: s) : Parted sought s [s]
  /-- The first occurrence, before those that are found behind it. -/
  | found {part rest : List Char} {parts : List (List Char)} (h : Leftmost sought part rest)
      (hrest : Parted sought rest parts) : Parted sought (part ++ sought ++ rest) (part :: parts)

/-- The parts with `new` in the first `n` places between them and `old` in all others. -/
def rejoin (old new : List Char) : ℕ → List (List Char) → List Char
  | _, [] => []
  | _, [part] => part
  | 0, part :: next :: parts => part ++ old ++ rejoin old new 0 (next :: parts)
  | n + 1, part :: next :: parts => part ++ new ++ rejoin old new n (next :: parts)

/-- The parts with `new` in all places between them, or in the first one only. -/
def substituted (everywhere : Bool) (old new : List Char) (parts : List (List Char)) : List Char :=
  if everywhere then new.intercalate parts else rejoin old new 1 parts

section

variable {old new new' s : List Char} {parts : List (List Char)} {n : ℕ}

lemma Parted.ne_nil (h : Parted old s parts) : parts ≠ [] := by
  cases h <;> exact List.cons_ne_nil _ _

lemma exists_parted (hold : old ≠ []) (s : List Char) : ∃ parts, Parted old s parts := by
  induction hlength : s.length using Nat.strong_induction_on generalizing s with
  | _ m ih =>
      by_cases hinfix : old <:+: s
      · obtain ⟨part, rest, rfl, hleft⟩ := exists_leftmost hinfix
        have hpos : 0 < old.length := List.length_pos_iff.mpr hold
        obtain ⟨parts, hparts⟩ := ih rest.length
          (by rw [← hlength, List.length_append, List.length_append]; omega) rest rfl
        exact ⟨part :: parts, .found hleft hparts⟩
      · exact ⟨[s], .last hinfix⟩

lemma Parted.length_le (hold : old ≠ []) (h : Parted old s parts) :
    parts.length ≤ s.length + 1 := by
  induction h with
  | last h => simp
  | found h hrest ih =>
      have hpos : 0 < old.length := List.length_pos_iff.mpr hold
      rw [List.length_cons, List.length_append, List.length_append]
      omega

/-- Only one part is left of a text in which nothing is found. -/
lemma Parted.one_lt_length (h : Parted old s parts) : 1 < parts.length ↔ old <:+: s := by
  cases h with
  | last h => simpa using h
  | @found part rest parts _ hrest =>
      have hpos : 0 < parts.length := List.length_pos_iff.mpr hrest.ne_nil
      refine iff_of_true (by rw [List.length_cons]; omega) ⟨part, rest, rfl⟩

lemma rejoin_cons_zero (part : List Char) (hparts : parts ≠ []) :
    rejoin old new 0 (part :: parts) = part ++ old ++ rejoin old new 0 parts := by
  cases parts with
  | nil => exact absurd rfl hparts
  | cons next parts => rfl

lemma rejoin_cons_succ (n : ℕ) (part : List Char) (hparts : parts ≠ []) :
    rejoin old new (n + 1) (part :: parts) = part ++ new ++ rejoin old new n parts := by
  cases parts with
  | nil => exact absurd rfl hparts
  | cons next parts => rfl

/-- With nothing replaced, the parts are those of the text. -/
lemma Parted.rejoin_zero (h : Parted old s parts) (new : List Char) :
    rejoin old new 0 parts = s := by
  induction h with
  | last h => rfl
  | found h hrest ih => rw [rejoin_cons_zero _ hrest.ne_nil, ih]

/-- The first occurrence replaced. -/
lemma Parted.replaceFirst_eq (h : Parted old s parts) (new : List Char) :
    replaceFirst old new s = rejoin old new 1 parts := by
  cases h with
  | last h =>
      rw [replaceFirst, find?_eq_none h]
      rfl
  | @found part rest parts hleft hrest =>
      rw [rejoin_cons_succ 0 part hrest.ne_nil, hrest.rejoin_zero, replaceFirst, hleft.find?_eq]
      simp [List.append_assoc]

/-- With enough replaced, the replacement stands between all parts. -/
lemma rejoin_of_length_le (h : parts.length ≤ n + 1) :
    rejoin old new n parts = new.intercalate parts := by
  induction parts generalizing n with
  | nil => cases n <;> rfl
  | cons part parts ih =>
      cases parts with
      | nil => cases n <;> simp [rejoin, List.intercalate]
      | cons next parts =>
          obtain ⟨n, rfl⟩ : ∃ k, n = k + 1 := ⟨n - 1, by simp at h; omega⟩
          rw [rejoin_cons_succ n part (by simp), ih (by simpa using h)]
          simp [List.intercalate]

lemma length_rejoin_le (h : new.length ≤ new'.length) (n : ℕ) (parts : List (List Char)) :
    (rejoin old new n parts).length ≤ (rejoin old new' n parts).length := by
  fun_induction rejoin old new n parts with
  | case1 n => cases n <;> rfl
  | case2 n part => cases n <;> rfl
  | case3 part next parts ih =>
      rw [rejoin_cons_zero part (by simp)]
      simp only [List.length_append]
      omega
  | case4 n part next parts ih =>
      rw [rejoin_cons_succ n part (by simp)]
      simp only [List.length_append]
      omega

lemma length_rejoin_lt (h : new.length < new'.length) (hn : 0 < n) (hparts : 1 < parts.length) :
    (rejoin old new n parts).length < (rejoin old new' n parts).length := by
  obtain ⟨n, rfl⟩ : ∃ k, n = k + 1 := ⟨n - 1, by omega⟩
  match parts, hparts with
  | part :: next :: parts, _ =>
      have hle := @length_rejoin_le old _ _ h.le n (next :: parts)
      simp only [rejoin, List.length_append]
      omega

/-- What stands between the parts can be told from the text. -/
lemma rejoin_inj (hn : 0 < n) :
    rejoin old new n parts = rejoin old new' n parts ↔ new = new' ∨ parts.length ≤ 1 := by
  constructor
  · intro heq
    by_contra hne
    rw [not_or, not_le] at hne
    obtain ⟨hne, hparts⟩ := hne
    -- behind the first part both texts begin at one place, so they differ only if their lengths do
    have hlength : new.length = new'.length := by
      rcases lt_trichotomy new.length new'.length with hlt | hlt | hlt
      · exact absurd (congrArg List.length heq) (length_rejoin_lt hlt hn hparts).ne
      · exact hlt
      · exact absurd (congrArg List.length heq) (length_rejoin_lt hlt hn hparts).ne'
    obtain ⟨n, rfl⟩ : ∃ k, n = k + 1 := ⟨n - 1, by omega⟩
    match parts, hparts with
    | part :: next :: parts, _ =>
        simp only [rejoin, List.append_assoc, List.append_cancel_left_eq] at heq
        exact hne (List.append_inj heq hlength).1
  · rintro (rfl | hparts)
    · rfl
    · match parts, hparts with
      | [], _ => cases n <;> rfl
      | [part], _ => cases n <;> rfl

/-- Different texts are put in places that exist with different results. -/
lemma substituted_inj {everywhere : Bool} :
    substituted everywhere old new parts = substituted everywhere old new' parts ↔
      new = new' ∨ parts.length ≤ 1 := by
  cases everywhere with
  | false => exact rejoin_inj Nat.one_pos
  | true =>
      have hall (new : List Char) :
          substituted true old new parts = rejoin old new (parts.length + 1) parts :=
        (rejoin_of_length_le (by omega)).symm
      rw [hall, hall]
      exact rejoin_inj (Nat.succ_pos _)

end

end Sigil.Text
