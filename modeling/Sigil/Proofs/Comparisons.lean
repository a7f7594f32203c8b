/-
# Comparisons

Scalars are compared by their texts alone: what a scalar reads as is what its text reads as.  Where
both texts read as numbers the order is that of the line of numbers, and otherwise that of texts.
So equality is an equivalence and exactly one of smaller, equal and greater holds, the word for what
is not a number apart, which is neither smaller nor greater than a number nor equal to itself.
-/
import Sigil.Library.Logic
import Sigil.Proofs.IntegerArguments
import Sigil.Proofs.NotANumber
import Sigil.Proofs.NumberOrder
import Sigil.Proofs.Scalars

namespace Sigil.Library

open Decimal (digitLimit)

/-! ### The comparison of texts -/

/-- The number a text reads as. -/
def numberOf? (s : String) : Option Number := (number (.text s)).toOption

lemma numberOf?_eq_some_iff {s : String} {x : Number} :
    numberOf? s = some x ↔ number (.text s) = .ok x := by
  unfold numberOf?
  cases number (.text s) <;> simp [Except.toOption]

/-- The order of two texts as arguments. -/
def compareTexts (s t : String) : Option Ordering :=
  match numberOf? s, numberOf? t with
  | some x, some y => Number.compare? x y
  | _, _ => some (cmp s t)

lemma readsAsNumber_text (s : String) : readsAsNumber (.text s) = (numberOf? s).isSome := by
  change (number (.text s)).isOk = _
  unfold numberOf?
  cases number (.text s) <;> rfl

/-- What a text is equal to the others by: where its number lies, or itself.  What is not a number
has no standing. -/
def standing? (s : String) : Option (WithBot (WithTop ℚ) ⊕ String) :=
  match numberOf? s with
  | some x => x.rank?.map .inl
  | none => some (.inr s)

lemma compareTexts_swap (s t : String) :
    compareTexts t s = (compareTexts s t).map Ordering.swap := by
  unfold compareTexts
  cases numberOf? s with
  | none => cases numberOf? t <;> simp [cmp_swap]
  | some x =>
      cases numberOf? t with
      | none => simp [cmp_swap]
      | some y =>
          simp only [Number.compare?_eq]
          cases x.rank? <;> cases y.rank? <;> simp [cmp_swap]

/-- Equal texts have the same standing: a text that reads as a number is not the same as one that
does not. -/
lemma compareTexts_eq_iff {s t : String} :
    compareTexts s t = some .eq ↔ ∃ k, standing? s = some k ∧ standing? t = some k := by
  have hsame (h : s = t) : numberOf? s = numberOf? t := congrArg numberOf? h
  unfold compareTexts standing?
  cases hs : numberOf? s with
  | none =>
      cases ht : numberOf? t with
      | none => simp [eq_comm (a := t)]
      | some y =>
          have hne : s ≠ t := fun h => by simpa [hs, ht] using hsame h
          simp [hne]
  | some x =>
      cases ht : numberOf? t with
      | none =>
          have hne : s ≠ t := fun h => by simpa [hs, ht] using hsame h
          simp [hne]
      | some y =>
          simp only [Number.compare?_eq]
          cases x.rank? with
          | none => simp
          | some p =>
              cases y.rank? with
              | none => simp
              | some q => simp [Option.map₂, eq_comm (a := q)]

/-- Two texts have no order only if both read as numbers and one of them has no standing. -/
lemma compareTexts_eq_none_iff {s t : String} :
    compareTexts s t = none ↔ ((numberOf? s).isSome ∧ (numberOf? t).isSome) ∧
      (standing? s = none ∨ standing? t = none) := by
  unfold compareTexts standing?
  cases numberOf? s with
  | none => simp
  | some x =>
      cases numberOf? t with
      | none => simp
      | some y => simp [Number.compare?_eq, Option.map₂_eq_none_iff]

/-! ### The texts of scalars -/

/-- The absent value, a truth value, a text, or an integer with no more digits than are written. -/
inductive IsScalar : Value → Prop
  /-- The absent value. -/
  | null : IsScalar .null
  /-- A truth value. -/
  | bool (b : Bool) : IsScalar (.bool b)
  /-- A text. -/
  | text (s : String) : IsScalar (.text s)
  /-- An integer. -/
  | int {n : ℤ} : n.natAbs < 10 ^ digitLimit → IsScalar (.int n)

/-- The argument is the word for what is not a number. -/
def IsNaN : Value → Prop
  | .text s => SpellsNaN s
  | _ => False

/-- The argument is compared as the text is. -/
structure ComparesAs (v : Value) (s : String) : Prop where
  toText_eq : v.toText = .ok s
  reads_eq : readsAsNumber v = (numberOf? s).isSome
  number_eq : ∀ x, numberOf? s = some x → number v = .ok x
  isNaN_iff : IsNaN v ↔ SpellsNaN s

lemma spellsNaN_iff {s : String} : SpellsNaN s ↔ numberOf? s = some (.float Float.nan) := by
  rw [← number_eq_nan_iff, numberOf?_eq_some_iff]

lemma comparesAs_text (s : String) : ComparesAs (.text s) s where
  toText_eq := rfl
  reads_eq := readsAsNumber_text s
  number_eq _ := numberOf?_eq_some_iff.mp
  isNaN_iff := Iff.rfl

/-- An argument whose text is a word that reads as no number is compared as that word. -/
lemma comparesAs_word {v : Value} {s : String} (htext : v.toText = .ok s)
    (hreads : readsAsNumber v = false) (hnan : ¬ IsNaN v) (hs : numberOf? s = none) :
    ComparesAs v s where
  toText_eq := htext
  reads_eq := by rw [hreads, hs]; rfl
  number_eq := by simp [hs]
  isNaN_iff := by simp [hnan, spellsNaN_iff, hs]

lemma comparesAs_int {n : ℤ} (h : n.natAbs < 10 ^ digitLimit) :
    ComparesAs (.int n) (Decimal.ofInt n) := by
  have hs : numberOf? (Decimal.ofInt n) = some (.int n) :=
    numberOf?_eq_some_iff.mpr (number_ofInt h)
  exact {
    toText_eq := showInt_of_lt h
    reads_eq := by rw [hs]; rfl
    number_eq := by simp [hs, number]
    isNaN_iff := by simp [IsNaN, spellsNaN_iff, hs] }

lemma IsScalar.exists_comparesAs {v : Value} (h : IsScalar v) : ∃ s, ComparesAs v s := by
  cases h with
  | null => exact ⟨"", comparesAs_word rfl (by rfl) id (by rfl)⟩
  | bool b =>
      cases b
      · exact ⟨"false", comparesAs_word rfl rfl id (by rfl)⟩
      · exact ⟨"true", comparesAs_word rfl rfl id (by rfl)⟩
  | text s => exact ⟨s, comparesAs_text s⟩
  | int h => exact ⟨_, comparesAs_int h⟩

section

variable {a b : Value} {s t : String}

lemma ComparesAs.compareValues_eq (ha : ComparesAs a s) (hb : ComparesAs b t) :
    compareValues a b = .ok (compareTexts s t) := by
  have horder : (if s == t then Ordering.eq else if s < t then .lt else .gt) = cmp s t := by
    rcases lt_trichotomy s t with h | rfl | h
    · simp [h, h.ne, (cmp_eq_lt_iff s t).mpr h]
    · simp
    · simp [h.not_gt, h.ne', (cmp_eq_gt_iff s t).mpr h]
  unfold compareValues compareTexts
  rw [ha.reads_eq, hb.reads_eq, ha.toText_eq, hb.toText_eq, ← horder]
  cases hs : numberOf? s with
  | none => rfl
  | some x =>
      cases ht : numberOf? t with
      | none => rfl
      | some y => rw [ha.number_eq x hs, hb.number_eq y ht]; rfl

/-- Only what is not a number has no standing. -/
lemma standing?_eq_none_iff : standing? s = none ↔ SpellsNaN s := by
  rw [spellsNaN_iff, standing?]
  cases numberOf? s with
  | none => simp
  | some x =>
      cases x with
      | int n => simp
      | float x => simp [Number.rank?_float_eq_none_iff]

end

/-! ### The comparisons -/

@[simp]
lemma isSmaller_swap (o : Option Ordering) : isSmaller (o.map Ordering.swap) = isGreater o := by
  rcases o with - | - | - | - <;> rfl

@[simp]
lemma isEqual_swap (o : Option Ordering) : isEqual (o.map Ordering.swap) = isEqual o := by
  rcases o with - | - | - | - <;> rfl

@[simp]
lemma isGreater_swap (o : Option Ordering) : isGreater (o.map Ordering.swap) = isSmaller o := by
  rcases o with - | - | - | - <;> rfl

/-- The six comparisons of two arguments, each by its answer. -/
structure Answers (a b : Value) (lt eq gt : Bool) : Prop where
  smaller : comparison isSmaller a b = .ok (.bool lt)
  equal : comparison isEqual a b = .ok (.bool eq)
  greater : comparison isGreater a b = .ok (.bool gt)
  unequal : comparison isUnequal a b = .ok (.bool !eq)
  greaterOrEqual : comparison isGreaterOrEqual a b = .ok (.bool (gt || eq))
  smallerOrEqual : comparison isSmallerOrEqual a b = .ok (.bool (lt || eq))

lemma answers_of_compareValues {a b : Value} {o : Option Ordering} (h : compareValues a b = .ok o) :
    Answers a b (isSmaller o) (isEqual o) (isGreater o) := by
  constructor <;> rw [comparison, h]
  case greaterOrEqual | smallerOrEqual => rcases o with - | - | - | - <;> rfl
  all_goals rfl

/-- The arguments are equal. -/
def Equal (a b : Value) : Prop := comparison isEqual a b = .ok (.bool true)

/-- Both arguments read as numbers, and one of them is the word for what is not a number. -/
def Incomparable (a b : Value) : Prop :=
  (readsAsNumber a ∧ readsAsNumber b) ∧ (IsNaN a ∨ IsNaN b)

section

variable {a b : Value} {s t : String}

lemma ComparesAs.equal_iff (ha : ComparesAs a s) (hb : ComparesAs b t) :
    Equal a b ↔ ∃ k, standing? s = some k ∧ standing? t = some k := by
  rw [Equal, (answers_of_compareValues (ha.compareValues_eq hb)).equal, ← compareTexts_eq_iff]
  rcases compareTexts s t with - | - | - | - <;> simp [isEqual]

lemma ComparesAs.incomparable_iff (ha : ComparesAs a s) (hb : ComparesAs b t) :
    Incomparable a b ↔ compareTexts s t = none := by
  rw [Incomparable, compareTexts_eq_none_iff, ha.reads_eq, hb.reads_eq, ha.isNaN_iff, hb.isNaN_iff,
    standing?_eq_none_iff, standing?_eq_none_iff]

end

/-- **Comparisons are coherent.**  Any two scalars have one set of answers, which the swapped
arguments have the other way around: exactly one of smaller, equal and greater holds, and the other
three comparisons follow from them.  Equality is symmetric and transitive, and reflexive but for the
word for what is not a number; of two arguments that read as numbers, one of them that word, none of
the three holds. -/
theorem comparisons_coherent {a b c : Value} (ha : IsScalar a) (hb : IsScalar b) (hc : IsScalar c) :
    (∃ lt eq gt : Bool, Answers a b lt eq gt ∧ Answers b a gt eq lt ∧
      (¬ Incomparable a b → [lt, eq, gt].count true = 1) ∧
      (Incomparable a b → lt = false ∧ eq = false ∧ gt = false)) ∧
    (Equal a a ↔ ¬ IsNaN a) ∧ (Equal a b → Equal b a) ∧ (Equal a b → Equal b c → Equal a c) := by
  obtain ⟨s, hs⟩ := ha.exists_comparesAs
  obtain ⟨t, ht⟩ := hb.exists_comparesAs
  obtain ⟨u, hu⟩ := hc.exists_comparesAs
  refine ⟨?_, ?_, ?_, ?_⟩
  · refine ⟨_, _, _, answers_of_compareValues (hs.compareValues_eq ht), ?_, ?_, ?_⟩
    · have hswapped := answers_of_compareValues (ht.compareValues_eq hs)
      rwa [compareTexts_swap, isSmaller_swap, isEqual_swap, isGreater_swap] at hswapped
    · rw [hs.incomparable_iff ht]
      rcases compareTexts s t with - | - | - | - <;> simp [isSmaller, isEqual, isGreater]
    · rw [hs.incomparable_iff ht]
      intro hnone
      rw [hnone]
      exact ⟨rfl, rfl, rfl⟩
  · rw [hs.equal_iff hs, hs.isNaN_iff, ← standing?_eq_none_iff]
    cases standing? s <;> simp
  · rw [hs.equal_iff ht, ht.equal_iff hs]
    rintro ⟨k, hk, hk'⟩
    exact ⟨k, hk', hk⟩
  · rw [hs.equal_iff ht, ht.equal_iff hu, hs.equal_iff hu]
    rintro ⟨k, hk, hk'⟩ ⟨l, hl, hl'⟩
    exact ⟨k, hk, by rw [← hl'.trans (hl.symm.trans hk')]⟩

/-- The same hundred in three spellings: equality passes from the first to the last. -/
theorem comparisons_coherent_hundred : Equal (.text "1e2") (.text " +100.0 ") := by
  have hhundred : IsScalar (.int 100) := .int (Decimal.natAbs_lt_of_lt (by decide))
  obtain ⟨-, -, -, htrans⟩ := comparisons_coherent (.text "1e2") hhundred (.text " +100.0 ")
  exact htrans (by rfl) (by rfl)

/-- The word for what is not a number is neither smaller nor greater than itself, nor equal. -/
theorem nan_is_not_itself :
    IsScalar (.text "nan") ∧ Answers (.text "nan") (.text "nan") false false false ∧
      ¬ ∀ v, IsScalar v → Equal v v := by
  have hanswers : Answers (.text "nan") (.text "nan") false false false :=
    answers_of_compareValues (o := none) (by rfl)
  refine ⟨.text "nan", hanswers, fun h => ?_⟩
  have hequal := h _ (.text "nan")
  rw [Equal, hanswers.equal] at hequal
  cases hequal

end Sigil.Library
