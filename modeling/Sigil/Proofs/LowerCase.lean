/-
# Lower case is final

A text in lower case is its own lower case.  The runs of the table are compared with one another:
none of them maps a code point into another run, so a character that a run has mapped is not mapped
again.  The two characters whose lower case is not a single character of its own, the capital sigma
and the capital i with a dot, are images of nothing, and neither is the sigil.
-/
import Mathlib
import Sigil.Text.Casing

namespace Sigil.Text

/-! ### Runs -/

/-- No code point from `low` to `high` lies in a run of the list.  Where `even` is set, only those
in steps of two from `low` count, so that a run in steps of two may be interleaved with them. -/
def spared (low high : ℕ) (even : Bool) : List CaseRun → Bool
  | [] => true
  | (first, last, step, _) :: runs =>
      match Nat.blt high first with
      | true => spared low high even runs
      | false =>
          match Nat.blt last low with
          | true => spared low high even runs
          | false =>
              even && Nat.beq step 2 && Nat.blt 0 low && Nat.beq ((low + first) % 2) 1 &&
                spared low high even runs

lemma image?_of_spared {low high m : ℕ} {even : Bool} {runs : List CaseRun}
    (h : spared low high even runs) (hlow : low ≤ m) (hhigh : m ≤ high)
    (heven : even → 0 < low → (m - low) % 2 = 0) : ∀ r ∈ runs, r.image? m = none := by
  induction runs with
  | nil => simp
  | cons r runs ih =>
      obtain ⟨first, last, step, shift⟩ := r
      have happart : (m < first ∨ last < m ∨ step = 2 ∧ (m + first) % 2 = 1) ∧
          spared low high even runs := by
        rw [spared] at h
        split at h
        · next hbefore => exact ⟨.inl (by rw [Nat.blt_eq] at hbefore; omega), h⟩
        · split at h
          · next hafter => exact ⟨.inr (.inl (by rw [Nat.blt_eq] at hafter; omega)), h⟩
          · simp only [Bool.and_eq_true, Nat.beq_eq, Nat.blt_eq] at h
            obtain ⟨⟨⟨⟨heven', hstep⟩, hpos⟩, hodd⟩, hruns⟩ := h
            -- both go in steps of two, one over the even code points and one over the odd ones
            have := heven heven' hpos
            exact ⟨.inr (.inr ⟨hstep, by omega⟩), hruns⟩
      refine List.forall_mem_cons.mpr ⟨?_, ih happart.2⟩
      simp only [CaseRun.image?, Bool.and_eq_true, decide_eq_true_eq, beq_iff_eq, ite_eq_right_iff,
        reduceCtorEq, imp_false, not_and]
      rintro ⟨hfirst, hlast⟩ hstep
      obtain hbefore | hafter | ⟨rfl, hodd⟩ := happart.1 <;> omega

/-- No image of the run lies in a run of the list. -/
def CaseRun.avoids : CaseRun → List CaseRun → Bool
  | (first, last, step, shift) =>
      spared (first + shift).toNat (last + shift).toNat (Nat.beq step 2 || Nat.beq first last)

lemma CaseRun.image?_of_avoids {r : CaseRun} {runs : List CaseRun} (h : r.avoids runs) {n m : ℕ}
    (hm : r.image? n = some m) : ∀ r' ∈ runs, r'.image? m = none := by
  obtain ⟨first, last, step, shift⟩ := r
  simp only [image?, Bool.and_eq_true, decide_eq_true_eq, beq_iff_eq, Option.ite_none_right_eq_some,
    Option.some.injEq] at hm
  obtain ⟨⟨⟨hfirst, hlast⟩, hstep⟩, rfl⟩ := hm
  refine image?_of_spared h (by omega) (by omega) fun heven hpos => ?_
  rw [Bool.or_eq_true, Nat.beq_eq, Nat.beq_eq] at heven
  obtain rfl | rfl := heven <;> omega

/-- The runs, and the code points of the sigil and of the capital i with a dot. -/
def guardedRuns : List CaseRun := (0x40, 0x40, 1, 0) :: (0x130, 0x130, 1, 0) :: lowerRuns

lemma avoids_guardedRuns : (lowerRuns.all fun r => r.avoids guardedRuns) = true := by
  decide +kernel

/-- The code point is neither mapped nor guarded. -/
def Clear (n : ℕ) : Prop := ∀ r ∈ guardedRuns, r.image? n = none

instance (n : ℕ) : Decidable (Clear n) :=
  inferInstanceAs (Decidable (∀ r ∈ guardedRuns, r.image? n = none))

/-- What a run maps a code point to is clear. -/
lemma clear_of_findSome? {n m : ℕ} (h : lowerRuns.findSome? (·.image? n) = some m) : Clear m := by
  obtain ⟨r, hr, hm⟩ := List.exists_of_findSome?_eq_some h
  exact r.image?_of_avoids (List.all_eq_true.mp avoids_guardedRuns r hr) hm

/-! ### Characters -/

/-- In ASCII the letters from A to Z are the only ones that are not in lower case. -/
lemma toLower_ascii : ∀ n < 0x80,
    lowerChar (Char.ofNat n).toLower = (Char.ofNat n).toLower ∧
      (Char.ofNat n).toLower.toNat < 0x80 ∧
      ((Char.ofNat n).toLower = '@' → n = 0x40) ∧
      (CaseRun.image? (0x41, 0x5A, 1, 32) n = none → (Char.ofNat n).toLower = Char.ofNat n) := by
  decide +kernel

lemma clear_ofNat {m : ℕ} (h : Clear m) : Clear (Char.ofNat m).toNat := by
  rw [Char.toNat_ofNat]
  split
  · exact h
  · decide +kernel

lemma lowerChar_of_clear {c : Char} (h : Clear c.toNat) : lowerChar c = c := by
  have hrun (r : CaseRun) (hr : r ∈ lowerRuns) : r.image? c.toNat = none :=
    h r (List.mem_cons_of_mem _ (List.mem_cons_of_mem _ hr))
  unfold lowerChar
  split
  · next hascii =>
      have hlower := (toLower_ascii c.toNat hascii).2.2.2 (hrun _ (by decide))
      rwa [Char.ofNat_toNat] at hlower
  · split
    · next hdot =>
        have hnone := h (0x130, 0x130, 1, 0) (by decide)
        simp [CaseRun.image?, beq_iff_eq.mp hdot] at hnone
    · rw [List.findSome?_eq_none_iff.mpr hrun, Option.map_none, Option.getD_none]

/-- The lower case of a character is the character itself, or clear. -/
lemma lowerChar_cases {c : Char} (hdot : c ≠ 'İ') :
    (c.toNat < 0x80 ∧ lowerChar c = c.toLower) ∨ lowerChar c = c ∨ Clear (lowerChar c).toNat := by
  unfold lowerChar
  split
  · next hascii => exact .inl ⟨hascii, rfl⟩
  · split
    · next hcode =>
        refine absurd ?_ hdot
        rw [← Char.ofNat_toNat c, beq_iff_eq.mp hcode]
    · cases hfind : lowerRuns.findSome? (·.image? c.toNat) with
      | none => exact .inr (.inl rfl)
      | some m => exact .inr (.inr (clear_ofNat (clear_of_findSome? hfind)))

/-- Wherever the character stands, its lower case is the character itself. -/
def Stable (c : Char) : Prop := ∀ before after, lowerAt before c after = [c]

lemma stable_of_lowerChar {c : Char} (h : lowerChar c = c) (hsigma : c ≠ 'Σ') (hdot : c ≠ 'İ') :
    Stable c := by
  intro before after
  simp [lowerAt, hsigma, hdot, h]

lemma stable_of_clear {c : Char} (h : Clear c.toNat) : Stable c := by
  refine stable_of_lowerChar (lowerChar_of_clear h) ?_ ?_ <;>
    · intro heq
      rw [heq] at h
      exact absurd h (by decide +kernel)

lemma stable_lowerChar {c : Char} (hsigma : c ≠ 'Σ') (hdot : c ≠ 'İ') : Stable (lowerChar c) := by
  rcases lowerChar_cases hdot with ⟨hascii, h⟩ | h | h
  -- ASCII goes by a function of its own, and what the table maps to is clear
  · obtain ⟨hlower, hlt, -⟩ := toLower_ascii c.toNat hascii
    rw [Char.ofNat_toNat] at hlower hlt
    rw [h]
    refine stable_of_lowerChar hlower ?_ ?_ <;>
      · intro heq
        rw [heq] at hlt
        exact absurd hlt (by decide)
  · rw [h]
    exact stable_of_lowerChar h hsigma hdot
  · exact stable_of_clear h

/-- The sigil is the lower case of itself alone. -/
lemma eq_sigil_of_lowerChar {c : Char} (hdot : c ≠ 'İ') (h : lowerChar c = '@') : c = '@' := by
  rcases lowerChar_cases hdot with ⟨hascii, hlower⟩ | hself | hclear
  · have hcode := (toLower_ascii c.toNat hascii).2.2.1
    rw [Char.ofNat_toNat, ← hlower] at hcode
    rw [← Char.ofNat_toNat c, hcode h]
  · rw [← hself, h]
  · rw [h] at hclear
    exact absurd hclear (by decide +kernel)

/-! ### Texts -/

lemma lowerAt_cases (before : List Char) (c : Char) (after : List Char) :
    (lowerAt before c after = ['ς'] ∨ lowerAt before c after = ['σ'] ∨
      lowerAt before c after = ['i', '\u0307']) ∨
    (c ≠ 'Σ' ∧ c ≠ 'İ' ∧ lowerAt before c after = [lowerChar c]) := by
  unfold lowerAt
  by_cases hsigma : c = 'Σ'
  · rw [if_pos (by simpa using hsigma)]
    split
    · exact .inl (.inl rfl)
    · exact .inl (.inr (.inl rfl))
  · rw [if_neg (by simpa using hsigma)]
    by_cases hdot : c = 'İ'
    · rw [if_pos (by simpa using hdot)]
      exact .inl (.inr (.inr rfl))
    · rw [if_neg (by simpa using hdot)]
      exact .inr ⟨hsigma, hdot, rfl⟩

lemma stable_of_mem_lowerAt {before after : List Char} {c d : Char}
    (hd : d ∈ lowerAt before c after) : Stable d := by
  have hclear : ∀ n ∈ [0x3C2, 0x3C3, 0x69, 0x307], Clear n := by decide +kernel
  rcases lowerAt_cases before c after with (h | h | h) | ⟨hsigma, hdot, h⟩ <;> rw [h] at hd
  · exact List.mem_singleton.mp hd ▸ stable_of_clear (hclear 0x3C2 (by simp))
  · exact List.mem_singleton.mp hd ▸ stable_of_clear (hclear 0x3C3 (by simp))
  · rcases List.mem_pair.mp hd with rfl | rfl
    · exact stable_of_clear (hclear 0x69 (by simp))
    · exact stable_of_clear (hclear 0x307 (by simp))
  · rw [List.mem_singleton.mp hd]
    exact stable_lowerChar hsigma hdot

lemma stable_of_mem_lowerFrom {before s : List Char} {d : Char} (hd : d ∈ lowerFrom before s) :
    Stable d := by
  induction s generalizing before with
  | nil => simp [lowerFrom] at hd
  | cons c s ih =>
      rw [lowerFrom, List.mem_append] at hd
      rcases hd with hd | hd
      · exact stable_of_mem_lowerAt hd
      · exact ih hd

lemma lowerFrom_of_stable {s : List Char} (h : ∀ c ∈ s, Stable c) (before : List Char) :
    lowerFrom before s = s := by
  induction s generalizing before with
  | nil => rfl
  | cons c s ih =>
      rw [lowerFrom, h c List.mem_cons_self, ih fun d hd => h d (List.mem_cons_of_mem c hd)]
      rfl

/-- A text in lower case is its own lower case. -/
lemma lower_lower (s : List Char) : lower (lower s) = lower s :=
  lowerFrom_of_stable (fun _ hd => stable_of_mem_lowerFrom hd) []

/-- A part of a text in lower case is in lower case. -/
lemma lower_eq_self_of_subset {s t : List Char} (h : lower s = s) (hsub : t ⊆ s) : lower t = t := by
  refine lowerFrom_of_stable (fun c hc => ?_) []
  rw [← h] at hsub
  exact stable_of_mem_lowerFrom (hsub hc)

lemma lowerAt_sigil (before after : List Char) : lowerAt before '@' after = ['@'] :=
  stable_of_lowerChar (by decide) (by decide) (by decide) before after

/-- The lower case of a character holds the sigil only if the character is the sigil. -/
lemma sigil_mem_lowerAt {before after : List Char} {c : Char} :
    '@' ∈ lowerAt before c after ↔ c = '@' := by
  constructor
  · intro hmem
    rcases lowerAt_cases before c after with (h | h | h) | ⟨-, hdot, h⟩ <;> rw [h] at hmem
    · simp at hmem
    · simp at hmem
    · simp at hmem
    · exact eq_sigil_of_lowerChar hdot (List.mem_singleton.mp hmem).symm
  · rintro rfl
    simp [lowerAt_sigil]

/-- A text has a sigil in lower case only if it has one. -/
lemma sigil_mem_lower {s : List Char} : '@' ∈ lower s ↔ '@' ∈ s := by
  suffices h : ∀ before, '@' ∈ lowerFrom before s ↔ '@' ∈ s from h []
  intro before
  induction s generalizing before with
  | nil => simp [lowerFrom]
  | cons c s ih =>
      rw [lowerFrom, List.mem_append, sigil_mem_lowerAt, ih, List.mem_cons, eq_comm]

/-- A text begins with the sigil in lower case only if it does so itself. -/
lemma sigil_prefix_lower {s : List Char} : ['@'] <+: lower s ↔ ['@'] <+: s := by
  cases s with
  | nil => simp [lower, lowerFrom]
  | cons c s =>
      obtain ⟨d, ds, hat⟩ : ∃ d ds, lowerAt [] c s = d :: ds := by
        rcases lowerAt_cases [] c s with (h | h | h) | ⟨-, -, h⟩ <;> exact ⟨_, _, h⟩
      have hbegins (c : Char) (cs : List Char) : ['@'] <+: c :: cs ↔ c = '@' := by
        simp [List.cons_prefix_cons, eq_comm]
      rw [lower, lowerFrom, hat, List.cons_append, hbegins, hbegins]
      constructor
      · rintro rfl
        exact sigil_mem_lowerAt.mp (hat ▸ List.mem_cons_self)
      · rintro rfl
        rw [lowerAt_sigil] at hat
        exact (List.cons.inj hat).1.symm

end Sigil.Text
