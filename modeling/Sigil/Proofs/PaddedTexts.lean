/-
# Padded texts

A text is padded with whole copies of a fill, of which as much is cut as is missing, so the added
characters go round the fill from its first one.  Single quotes are taken out of both before.

What cannot be padded to are lengths that no text can have: a decimal text of more digits than are
read is refused, and so is a length for which the copies of the fill would be longer together than
any text.
-/
import Sigil.Library.Strings
import Sigil.Proofs.IntegerArguments

namespace Sigil.Library

open Decimal (digitLimit)

/-- The characters of a text that are no single quotes. -/
def unquoted (s : String) : List Char := s.toList.filter (· != '\'')

/-- The copies of a fill of which a text is padded to a length are no longer together than a text
can be. -/
def FitsPadding (n : ℤ) (fill s : List Char) : Prop :=
  s.length < n → ((n.toNat - s.length) / fill.length + 1) * fill.length ≤ indexLimit
deriving Decidable

/-! ### Copies -/

section

variable (s : List Char)

/-- Copies of a text go round its characters. -/
lemma getElem?_flatten_replicate {m k : ℕ} (h : k < m * s.length) :
    (List.replicate m s).flatten[k]? = s[k % s.length]? := by
  induction m generalizing k with
  | zero => simp at h
  | succ m ih =>
      rw [List.replicate_succ, List.flatten_cons]
      rcases lt_or_ge k s.length with hfirst | hlater
      · rw [List.getElem?_append_left hfirst, Nat.mod_eq_of_lt hfirst]
      · have hrest : k - s.length < m * s.length := by
          rw [Nat.succ_mul] at h
          omega
        rw [List.getElem?_append_right hlater, ih hrest, Nat.mod_eq_sub_mod hlater]

lemma copies_of_le {m : ℕ} (hs : s ≠ []) (h : m * s.length ≤ indexLimit) :
    copies m s = .ok (List.replicate m s).flatten := by
  have hcount : m ≤ m * s.length := Nat.le_mul_of_pos_right m (List.length_pos_iff.mpr hs)
  rw [copies, if_neg (by omega), if_neg (by omega)]

lemma copies_of_lt {m : ℕ} (h : indexLimit < m * s.length) :
    ∃ message, copies m s = .error (Fault.overflow message) := by
  rw [copies, if_pos h]
  split <;> exact ⟨_, rfl⟩

end

/-! ### Padding -/

section

variable {n : ℤ} {fill s : List Char}

lemma fitsPadding_of_le (h : n + fill.length ≤ indexLimit) : FitsPadding n fill s := by
  intro hlonger
  have hwhole : (n.toNat - s.length) / fill.length * fill.length ≤ n.toNat - s.length :=
    Nat.div_mul_le_self _ _
  rw [Nat.succ_mul]
  omega

lemma padding_of_le (h : fill = [] ∨ n ≤ s.length) : padding n fill s = .ok [] := by
  refine if_pos ?_
  rcases h with rfl | h
  · simp
  · simp [h]

lemma padding_of_lt (hfill : fill ≠ []) (hlonger : s.length < n) :
    padding n fill s = (copies ((n.toNat - s.length) / fill.length + 1) fill).map
      (·.take (n.toNat - s.length)) :=
  if_neg (by simp [hfill, hlonger])

/-- What is missing is filled up, going round the fill. -/
lemma exists_padding (hfill : fill ≠ []) (hlonger : s.length < n) (hfits : FitsPadding n fill s) :
    ∃ p, padding n fill s = .ok p ∧ (p.length + s.length : ℤ) = n ∧
      ∀ k < p.length, p[k]? = fill[k % fill.length]? := by
  have hpos : 0 < fill.length := List.length_pos_iff.mpr hfill
  set missing := n.toNat - s.length with hmissing
  have henough : missing < (missing / fill.length + 1) * fill.length := by
    rw [mul_comm]
    exact Nat.lt_mul_div_succ missing hpos
  have hlength : ((List.replicate (missing / fill.length + 1) fill).flatten.take missing).length =
      missing := by
    simpa using henough.le
  refine ⟨(List.replicate (missing / fill.length + 1) fill).flatten.take missing, ?_, ?_, ?_⟩
  · rw [padding_of_lt hfill hlonger, copies_of_le fill hfill (hfits hlonger)]
    rfl
  · rw [hlength]
    omega
  · intro k hk
    rw [hlength] at hk
    rw [List.getElem?_take_of_lt hk, getElem?_flatten_replicate fill (hk.trans henough)]

lemma padding_of_not_fits (h : ¬ FitsPadding n fill s) :
    ∃ message, padding n fill s = .error (Fault.overflow message) := by
  obtain ⟨hlonger, hlong⟩ := Classical.not_imp.mp h
  have hfill : fill ≠ [] := by
    rintro rfl
    simp at hlong
  obtain ⟨message, hcopies⟩ := copies_of_lt fill (not_le.mp hlong)
  refine ⟨message, ?_⟩
  rw [padding_of_lt hfill hlonger, hcopies]
  rfl

end

lemma padded_eq (left : Bool) (s fill : String) (v : Value) :
    padded left (.text s) v (.text fill) = (integer v).bind fun n =>
      (padding n (unquoted fill) (unquoted s)).map fun p =>
        textValue (if left then p ++ unquoted s else unquoted s ++ p) := by
  have htext (t : String) : unquotedChars (.text t) = .ok (unquoted t) := rfl
  simp only [padded, htext, bind, Except.bind]
  cases integer v with
  | error => rfl
  | ok n => cases padding n (unquoted fill) (unquoted s) <;> rfl

lemma padded_of_integer {v : Value} {n : ℤ} (h : integer v = .ok n) (left : Bool)
    (s fill : String) : padded left (.text s) v (.text fill) =
      (padding n (unquoted fill) (unquoted s)).map fun p =>
        textValue (if left then p ++ unquoted s else unquoted s ++ p) := by
  rw [padded_eq, h]
  rfl

/-- A length with more digits than are read is refused. -/
lemma padded_ofInt_of_le {m : ℤ} (h : 10 ^ digitLimit ≤ m.natAbs) (left : Bool) (s fill : String) :
    padded left (.text s) (.text (Decimal.ofInt m)) (.text fill) =
      .error (Decimal.NumeralError.tooManyDigits (Decimal.natDigits m.natAbs).length).fault := by
  rw [padded_eq, integer, number_ofInt_of_le h]
  rfl

/-- **Padded texts.**  Without its single quotes, a text is padded on either side to exactly the
length that is asked for, unless it is as long already or there is nothing to fill it up with; the
added characters go round the fill.  A length whose copies of the fill would be longer than any text
is out of range, and a decimal text with more digits than are read is refused. -/
theorem padded_exactly (s fill : String) {v : Value} {n : ℤ} (hv : GivesInteger v n) :
    (FitsPadding n (unquoted fill) (unquoted s) →
      ∃ p, padded true (.text s) v (.text fill) = .ok (textValue (p ++ unquoted s)) ∧
        padded false (.text s) v (.text fill) = .ok (textValue (unquoted s ++ p)) ∧
        (unquoted fill ≠ [] → (p.length + (unquoted s).length : ℤ) = max ↑(unquoted s).length n) ∧
        (∀ k < p.length, p[k]? = (unquoted fill)[k % (unquoted fill).length]?) ∧
        (unquoted fill = [] ∨ n ≤ (unquoted s).length → p = [])) ∧
    (¬ FitsPadding n (unquoted fill) (unquoted s) → ∀ left, ∃ message,
      padded left (.text s) v (.text fill) = .error (Fault.overflow message)) ∧
    (n + (unquoted fill).length ≤ indexLimit → FitsPadding n (unquoted fill) (unquoted s)) ∧
    ∀ m : ℤ, 10 ^ digitLimit ≤ m.natAbs → ∀ left,
      padded left (.text s) (.text (Decimal.ofInt m)) (.text fill) =
        .error (Decimal.NumeralError.tooManyDigits (Decimal.natDigits m.natAbs).length).fault := by
  have hpadded (left : Bool) := padded_of_integer hv.integer_eq left s fill
  refine ⟨fun hfits => ?_, fun hlong left => ?_, fitsPadding_of_le,
    fun m hm left => padded_ofInt_of_le hm left s fill⟩
  · by_cases hshort : unquoted fill = [] ∨ n ≤ (unquoted s).length
    · -- nothing is added
      refine ⟨[], ?_, ?_, fun hfill => ?_, nofun, fun _ => rfl⟩
      · rw [hpadded, padding_of_le hshort]
        rfl
      · rw [hpadded, padding_of_le hshort]
        rfl
      · have hle := hshort.resolve_left hfill
        simp [hle]
    · obtain ⟨hfill, hlonger⟩ := not_or.mp hshort
      obtain ⟨p, hp, hlength, hround⟩ := exists_padding hfill (not_le.mp hlonger) hfits
      refine ⟨p, ?_, ?_, fun _ => ?_, hround, fun h => absurd h hshort⟩
      · rw [hpadded, hp]
        rfl
      · rw [hpadded, hp]
        rfl
      · rw [hlength, max_eq_right (not_le.mp hlonger).le]
  · obtain ⟨message, hp⟩ := padding_of_not_fits hlong
    refine ⟨message, ?_⟩
    rw [hpadded, hp]
    rfl

/-- A fill of two characters that is cut and its quotes taken out, and a length of one digit too
many. -/
theorem padded_exactly_six :
    padded true (.text "it's") (.text (Decimal.ofInt 6)) (.text "'xy'") = .ok (.text "xyxits") ∧
      padded false (.text "it's") (.text (Decimal.ofInt 6)) (.text "'xy'") = .ok (.text "itsxyx") ∧
      ∃ e, padded true (.text "it's") (.text (Decimal.ofInt (10 ^ digitLimit))) (.text "'xy'") =
        .error e := by
  have htext : unquoted "it's" = ['i', 't', 's'] := by rfl
  have hfill : unquoted "'xy'" = ['x', 'y'] := by rfl
  obtain ⟨hpadded, -, hfits, hlong⟩ := padded_exactly "it's" "'xy'"
    (.decimal (Decimal.natAbs_lt_of_lt (by decide)) : GivesInteger (.text (Decimal.ofInt 6)) 6)
  rw [htext, hfill] at hpadded hfits
  obtain ⟨p, hleft, hright, hlength, hround, -⟩ := hpadded (hfits (by decide))
  have hthree : p.length = 3 := by
    have hsum := hlength (by simp)
    simp only [List.length_cons, List.length_nil] at hsum
    omega
  obtain ⟨a, b, c, rfl⟩ := List.length_eq_three.mp hthree
  obtain rfl : a = 'x' := by simpa using hround 0 (by simp)
  obtain rfl : b = 'y' := by simpa using hround 1 (by simp)
  obtain rfl : c = 'x' := by simpa using hround 2 (by simp)
  exact ⟨hleft, hright, _, hlong (10 ^ digitLimit) (by simp) true⟩

/-- A decimal text of one digit too many is refused, though nothing is to be added for a negative
length; and an integer is refused if a text cannot be so long. -/
theorem long_lengths_are_refused :
    (∃ e, padded true (.text "a") (.text (Decimal.ofInt (-10 ^ digitLimit))) (.text "x") =
        .error e) ∧
      (∃ message, padded true (.text "a") (.int (2 ^ 64)) (.text "x") =
        .error (Fault.overflow message)) ∧
      ¬ ∀ (s fill : String) (n : ℤ), n ≤ (unquoted s).length →
        padded true (.text s) (.text (Decimal.ofInt n)) (.text fill) =
          .ok (textValue (unquoted s)) := by
  have hlong : 10 ^ digitLimit ≤ (-10 ^ digitLimit : ℤ).natAbs := by simp
  refine ⟨⟨_, padded_ofInt_of_le hlong true "a" "x"⟩, ?_, fun hall => ?_⟩
  · obtain ⟨message, hp⟩ := padding_of_not_fits
      (by decide : ¬ FitsPadding (2 ^ 64) (unquoted "x") (unquoted "a"))
    refine ⟨message, ?_⟩
    rw [padded_of_integer (n := 2 ^ 64) rfl, hp]
    rfl
  · have hshort : (-10 ^ digitLimit : ℤ) ≤ (unquoted "a").length := by
      have hneg : (-10 ^ digitLimit : ℤ) ≤ 0 := by
        rw [neg_nonpos]
        positivity
      omega
    have hboth := (padded_ofInt_of_le hlong true "a" "x").symm.trans (hall "a" "x" _ hshort)
    cases hboth

end Sigil.Library
