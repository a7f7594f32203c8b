/-
# Requested slices

A start that is negative counts from the end of a text, and a length asks for so many characters
from the start on.  The library takes a length that is zero for one that is not given, and a stop
that comes out negative for one that counts from the end as well; where neither happens, it gives
the slice that is asked for.  Zero as a text is a length like any other.
-/
import Sigil.Library.Strings
import Sigil.Proofs.IntegerArguments

namespace Sigil

open Decimal (digitLimit)

lemma Text.take_drop_of_find? {sought s : List Char} {i : ℕ} (h : find? sought s = some i) :
    (s.drop i).take sought.length = sought := by
  induction s generalizing i with
  | nil =>
      rw [find?] at h
      split at h
      · next hempty => simp [List.isEmpty_iff.mp hempty]
      · cases h
  | cons c rest ih =>
      rw [find?] at h
      split at h
      · next hfirst =>
          obtain rfl := Option.some_inj.mp h
          obtain ⟨more, hmore⟩ := List.isPrefixOf_iff_prefix.mp hfirst
          rw [List.drop_zero, ← hmore, List.take_left]
      · obtain ⟨j, hj, rfl⟩ := Option.map_eq_some_iff.mp h
        exact ih hj

namespace Library

/-- The place where a slice of a text begins. -/
def startOf (k : ℤ) (s : List Char) : ℕ := (if 0 ≤ k then k else max (s.length + k) 0).toNat

/-- The slice that is asked for by a start and a length. -/
def requested (k n : ℤ) (s : List Char) : List Char := (s.drop (startOf k s)).take n.toNat

/-- The slice would stop before the start of the text, but not so far before it that the stop,
counted from the end, lies there too. -/
def StopsFromEnd (first : ℕ) (n : ℤ) (s : List Char) : Prop := first < -n ∧ -n < s.length
deriving Decidable

section

variable {k n : ℤ} {s : List Char} {first : ℕ}

lemma length_requested :
    ((requested k n s).length : ℤ) = min (max n 0) (max (s.length - startOf k s) 0) := by
  rw [requested, List.length_take, List.length_drop]
  omega

lemma slice_of_nonneg (h : 0 ≤ first + n) :
    slice first (first + n) s = (s.drop first).take n.toNat := by
  have hstop : (first + n).toNat - first = n.toNat := by omega
  rw [slice, if_neg (not_lt.mpr h), List.drop_take, hstop]

lemma length_slice_of_neg (h : first + n < 0) :
    (slice first (first + n) s).length = (s.length + n).toNat := by
  rw [slice, if_pos h, List.length_drop, List.length_take]
  omega

/-- A slice is cut as it is asked for unless its stop counts from the end. -/
lemma slice_eq_iff :
    slice first (first + n) s = (s.drop first).take n.toNat ↔ ¬ StopsFromEnd first n s := by
  unfold StopsFromEnd
  by_cases hstop : 0 ≤ first + n
  · exact iff_of_true (slice_of_nonneg hstop) (by omega)
  · have hlength := length_slice_of_neg (s := s) (not_le.mp hstop)
    have hnone : n.toNat = 0 := by omega
    rw [hnone, List.take_zero, ← List.length_eq_zero_iff, hlength]
    omega

end

/-! ### Slices of texts -/

lemma startOf_eq (k : ℤ) (s : List Char) :
    (if k < 0 then s.length - k.natAbs else k.toNat) = startOf k s := by
  unfold startOf
  split <;> split <;> omega

/-- A length that counts as true is read; without one the text goes on to its end. -/
lemma substring_eq (s : String) (k : ℤ) (length : Value) :
    substring (.text s) (.int k) length =
      if length.isTruthy then (integer length).map fun n =>
        textValue (slice (startOf k s.toList) (startOf k s.toList + n) s.toList)
      else .ok (textValue (s.toList.drop (startOf k s.toList))) := by
  have htext : chars (.text s) = .ok s.toList := rfl
  have hstart : integer (.int k) = .ok k := rfl
  simp only [substring, htext, hstart, bind, Except.bind, startOf_eq]
  split
  · cases integer length <;> rfl
  · rfl

lemma textValue_inj {s t : List Char} : textValue s = textValue t ↔ s = t := by
  rw [textValue, textValue, Value.text.injEq, String.ofList_inj]

/-- The decimal text of an integer counts as true, whatever the integer is. -/
lemma isTruthy_ofInt (n : ℤ) : (Value.text (Decimal.ofInt n)).isTruthy := by
  have hne : (Decimal.ofInt n).toList ≠ [] := by
    rw [Decimal.ofInt, String.toList_ofList]
    split
    · exact List.cons_ne_nil _ _
    · exact Decimal.natDigits_ne_nil _
  simpa [Value.isTruthy] using hne

section

variable (s : String) (k : ℤ) {n : ℤ}

/-- An integer length that is not zero cuts a slice, and zero does not cut at all. -/
lemma exists_substring_int (n : ℤ) :
    ∃ t, substring (.text s) (.int k) (.int n) = .ok (textValue t) ∧
      (t = requested k n s.toList ↔
        (n = 0 → s.length ≤ startOf k s.toList) ∧
          ¬ StopsFromEnd (startOf k s.toList) n s.toList) := by
  rw [substring_eq]
  by_cases hzero : n = 0
  · subst hzero
    refine ⟨_, rfl, ?_⟩
    have hstop : ¬ StopsFromEnd (startOf k s.toList) 0 s.toList := fun h => by
      unfold StopsFromEnd at h
      omega
    simp [requested, hstop, String.length_toList]
  · have htruthy : (Value.int n).isTruthy := by simpa [Value.isTruthy] using hzero
    refine ⟨_, if_pos htruthy, ?_⟩
    rw [requested, ← slice_eq_iff]
    simp [hzero]

/-- The decimal text of a length always cuts a slice. -/
lemma exists_substring_ofInt (h : n.natAbs < 10 ^ digitLimit) :
    ∃ t, substring (.text s) (.int k) (.text (Decimal.ofInt n)) = .ok (textValue t) ∧
      (t = requested k n s.toList ↔ ¬ StopsFromEnd (startOf k s.toList) n s.toList) := by
  rw [substring_eq, if_pos (isTruthy_ofInt n), (GivesInteger.decimal h).integer_eq]
  exact ⟨_, rfl, slice_eq_iff⟩

/-- The two forms of a length have the same result unless it is zero and something is to cut. -/
lemma substring_int_eq_iff (h : n.natAbs < 10 ^ digitLimit) :
    substring (.text s) (.int k) (.int n) =
        substring (.text s) (.int k) (.text (Decimal.ofInt n)) ↔
      (n = 0 → s.length ≤ startOf k s.toList) := by
  rw [substring_eq, substring_eq, if_pos (isTruthy_ofInt n), (GivesInteger.decimal h).integer_eq]
  by_cases hzero : n = 0
  · subst hzero
    have hslice : slice (startOf k s.toList) (startOf k s.toList + 0) s.toList = [] := by
      rw [slice_of_nonneg (by omega)]
      exact List.take_zero
    have hfalse : (Value.int 0).isTruthy = false := rfl
    rw [if_neg (by simp [hfalse]), Except.map, hslice, Except.ok.injEq, textValue_inj]
    simp [String.length_toList]
  · have htruthy : (Value.int n).isTruthy := by simpa [Value.isTruthy] using hzero
    rw [if_pos htruthy]
    exact iff_of_true rfl fun h => absurd h hzero

end

/-- What is found in a text is cut out again by its place and its length, if it has one. -/
lemma substring_found {s sub : String} {i : ℕ} (h : Text.find? sub.toList s.toList = some i) :
    substring (.text s) (.int i) (.int sub.length) = .ok (.text sub) ↔ sub ≠ "" ∨ s = "" := by
  have hstart : startOf i s.toList = i := by
    unfold startOf
    omega
  have hvalue (t : List Char) :
      (Except.ok (textValue t) : Result) = .ok (.text sub) ↔ t = sub.toList := by
    rw [Except.ok.injEq, ← String.ofList_toList (s := sub), ← textValue, textValue_inj,
      String.ofList_toList]
  rw [substring_eq, hstart]
  by_cases hempty : sub = ""
  · subst hempty
    have hfirst : i = 0 := by
      cases hs : s.toList with
      | nil => simpa [hs, Text.find?] using h.symm
      | cons c rest => simpa [hs, Text.find?] using h.symm
    subst hfirst
    rw [if_neg (by decide), hvalue]
    simp
  · have htruthy : (Value.int sub.length).isTruthy := by simpa [Value.isTruthy] using hempty
    have hinteger : integer (.int sub.length) = .ok (sub.length : ℤ) := rfl
    rw [if_pos htruthy, hinteger, Except.map, hvalue, slice_of_nonneg (by omega), Int.toNat_natCast,
      ← String.length_toList]
    exact iff_of_true (Text.take_drop_of_find? h) (.inl hempty)

/-- **Requested slices.**  The slice that is asked for has as many characters as the length says and
the text has left.  A length that is an integer always gives a text, the slice that is asked for
exactly if the length is not a zero with something left to cut and the stop is not taken to count
from the end; a decimal text gives the slice for zero as well, and fails only beyond the digits that
are read.  What is found in a text is cut out again unless it is empty. -/
theorem substring_requested (s : String) (k n : ℤ) :
    ((requested k n s.toList).length : ℤ) = min (max n 0) (max (s.length - startOf k s.toList) 0) ∧
    (∃ t, substring (.text s) (.int k) (.int n) = .ok (textValue t) ∧
      (t = requested k n s.toList ↔
        (n = 0 → s.length ≤ startOf k s.toList) ∧
          ¬ StopsFromEnd (startOf k s.toList) n s.toList)) ∧
    (n.natAbs < 10 ^ digitLimit →
      (∃ t, substring (.text s) (.int k) (.text (Decimal.ofInt n)) = .ok (textValue t) ∧
        (t = requested k n s.toList ↔ ¬ StopsFromEnd (startOf k s.toList) n s.toList)) ∧
      (substring (.text s) (.int k) (.int n) =
          substring (.text s) (.int k) (.text (Decimal.ofInt n)) ↔
        (n = 0 → s.length ≤ startOf k s.toList))) ∧
    (10 ^ digitLimit ≤ n.natAbs →
      ∃ e, substring (.text s) (.int k) (.text (Decimal.ofInt n)) = .error e) ∧
    ∀ sub, includes (.text s) (.text sub) = .ok (.bool true) →
      ∃ i l, indexOf (.text s) (.text sub) = .ok i ∧ lengthOf (.text sub) = .ok l ∧
        (substring (.text s) i l = .ok (.text sub) ↔ sub ≠ "" ∨ s = "") := by
  refine ⟨?_, exists_substring_int s k n,
    fun h => ⟨exists_substring_ofInt s k h, substring_int_eq_iff s k h⟩, fun h => ?_,
    fun sub h => ?_⟩
  · rw [length_requested, String.length_toList]
  · rw [substring_eq, if_pos (isTruthy_ofInt n), integer, number_ofInt_of_le h]
    exact ⟨_, rfl⟩
  · have hincludes : includes (.text s) (.text sub) =
        .ok (.bool (Text.find? sub.toList s.toList).isSome) := rfl
    rw [hincludes, Except.ok.injEq, Value.bool.injEq, Option.isSome_iff_exists] at h
    obtain ⟨i, hi⟩ := h
    have hindex : indexOf (.text s) (.text sub) =
        .ok (.int (((Text.find? sub.toList s.toList).map Int.ofNat).getD (-1))) := rfl
    have hlength : lengthOf (.text sub) = .ok (.int sub.toList.length) := rfl
    rw [hi] at hindex
    rw [String.length_toList] at hlength
    exact ⟨_, _, hindex, hlength, substring_found hi⟩

/-- Two characters from the third on, whether the start is counted from the end and the length
written as a text or not; a length of one digit too many; and a text found within another. -/
theorem substring_requested_middle :
    substring (.text "abcdef") (.int (-4)) (.int 2) = .ok (.text "cd") ∧
      substring (.text "abcdef") (.int (-4)) (.text "2") = .ok (.text "cd") ∧
      (∃ e, substring (.text "abcdef") (.int (-4)) (.text (Decimal.ofInt (10 ^ digitLimit))) =
        .error e) ∧
      ∃ i l, indexOf (.text "abcdef") (.text "de") = .ok i ∧ lengthOf (.text "de") = .ok l ∧
        substring (.text "abcdef") i l = .ok (.text "de") := by
  obtain ⟨-, hint, htext, -, hfound⟩ := substring_requested "abcdef" (-4) 2
  obtain ⟨-, -, -, hlong, -⟩ := substring_requested "abcdef" (-4) (10 ^ digitLimit)
  have hcut : textValue (requested (-4) 2 "abcdef".toList) = .text "cd" := by rfl
  obtain ⟨t, ht, heq⟩ := hint
  obtain rfl := heq.mpr ⟨by decide, by decide⟩
  obtain ⟨⟨u, hu, heq⟩, -⟩ := htext (Decimal.natAbs_lt_of_lt (by decide))
  obtain rfl := heq.mpr (by decide)
  obtain ⟨i, l, hi, hl, hsub⟩ := hfound "de" (by rfl)
  rw [hcut] at ht hu
  exact ⟨ht, hu, hlong (by simp), i, l, hi, hl, hsub.mpr (.inl (by decide))⟩

/-- The integer zero is taken for no length, and a stop before the start of the text for one that is
counted from its end. -/
theorem zero_is_no_length :
    substring (.text "abc") (.int 0) (.int 0) = .ok (.text "abc") ∧
      textValue (requested 0 0 "abc".toList) = .text "" ∧
      substring (.text "abc") (.int 0) (.int (-1)) = .ok (.text "ab") ∧
      textValue (requested 0 (-1) "abc".toList) = .text "" ∧
      ¬ ∀ s k n, substring (.text s) (.int k) (.int n) =
        .ok (textValue (requested k n s.toList)) := by
  have hzero : substring (.text "abc") (.int 0) (.int 0) = .ok (.text "abc") := by rfl
  have hcut : textValue (requested 0 0 "abc".toList) = .text "" := by rfl
  refine ⟨hzero, hcut, by rfl, by rfl, fun hall => ?_⟩
  have hboth := hzero.symm.trans (hall "abc" 0 0)
  rw [hcut, Except.ok.injEq, Value.text.injEq] at hboth
  exact absurd hboth (by decide)

end Library

end Sigil
