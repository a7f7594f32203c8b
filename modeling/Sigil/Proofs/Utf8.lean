/-
# Text written in UTF-8 and read back

A character is written as one byte below 128, or as a byte that tells how many continuation bytes
follow it.  The reader divides the bytes in the same way: the second byte of a character is one that
it admits after the first, since characters are written in their shortest form and none of them is a
surrogate.
-/
import Mathlib
import Sigil.Bytes.Utf8

namespace Sigil.Bytes

/-! ### Bytes and numbers -/

lemma isContinuation_iff {b : UInt8} : isContinuation b ↔ 0x80 ≤ b.toNat ∧ b.toNat ≤ 0xBF := by
  simp [isContinuation, UInt8.le_iff_toNat_le]

lemma isSecond_iff {first b : UInt8} : isSecond first b ↔ (0x80 ≤ b.toNat ∧ b.toNat ≤ 0xBF) ∧
    (first.toNat = 0xE0 → 0xA0 ≤ b.toNat) ∧ (first.toNat = 0xED → b.toNat ≤ 0x9F) ∧
    (first.toNat = 0xF0 → 0x90 ≤ b.toNat) ∧ (first.toNat = 0xF4 → b.toNat ≤ 0x8F) := by
  simp only [isSecond, Bool.and_eq_true, Bool.or_eq_true, bne_iff_ne, decide_eq_true_eq,
    isContinuation_iff, UInt8.le_iff_toNat_le, ne_eq, ← UInt8.toNat_inj, UInt8.reduceToNat]
  tauto

/-- The code point of a character is no surrogate. -/
lemma toNat_valid (c : Char) : c.toNat < 0xD800 ∨ (0xDFFF < c.toNat ∧ c.toNat < 0x110000) := by
  have h := c.valid
  simpa [UInt32.isValidChar, Nat.isValidChar] using h

/-! ### One character -/

section

variable {c : Char} {a b d e : UInt8}

lemma utf8Step_one (hc : c.toNat < 0x80) (ha : a.toNat = c.toNat) (rest : List UInt8) :
    utf8Step a rest = .char c 1 := by
  have hfirst : a < 0x80 := by
    rw [UInt8.lt_iff_toNat_lt, ha]
    exact hc
  simp only [utf8Step, if_pos hfirst, ha, Char.ofNat_toNat]

lemma utf8Step_two (hlow : 0x80 ≤ c.toNat) (hhigh : c.toNat < 0x800)
    (ha : a.toNat = c.toNat / 64 + 192) (hb : b.toNat = c.toNat % 64 + 128) (rest : List UInt8) :
    utf8Step a (b :: rest) = .char c 2 := by
  have hmore : isContinuation b := isContinuation_iff.mpr (by omega)
  have hvalue : 64 * (a.toNat % 32) + b.toNat % 64 = c.toNat := by omega
  have hchar : utf8Char (a.toNat % 32) [b] = c := by
    simp only [utf8Char, List.foldl_cons, List.foldl_nil, continuationBits, hvalue,
      Char.ofNat_toNat]
  simp only [utf8Step, UInt8.lt_iff_toNat_lt, Bool.or_eq_true, decide_eq_true_eq,
    UInt8.reduceToNat]
  rw [if_neg (by omega), if_neg (by omega), if_pos (by omega), if_pos hmore, hchar]

lemma utf8Step_three (hlow : 0x800 ≤ c.toNat) (hhigh : c.toNat < 0x10000)
    (ha : a.toNat = c.toNat / 4096 + 224) (hb : b.toNat = c.toNat / 64 % 64 + 128)
    (hd : d.toNat = c.toNat % 64 + 128) (rest : List UInt8) :
    utf8Step a (b :: d :: rest) = .char c 3 := by
  have hvalid := toNat_valid c
  have hsecond : isSecond a b := isSecond_iff.mpr (by omega)
  have hmore : isContinuation d := isContinuation_iff.mpr (by omega)
  have hvalue : 64 * (64 * (a.toNat % 16) + b.toNat % 64) + d.toNat % 64 = c.toNat := by omega
  have hchar : utf8Char (a.toNat % 16) [b, d] = c := by
    simp only [utf8Char, List.foldl_cons, List.foldl_nil, continuationBits, hvalue,
      Char.ofNat_toNat]
  simp only [utf8Step, UInt8.lt_iff_toNat_lt, Bool.or_eq_true, decide_eq_true_eq,
    UInt8.reduceToNat, hsecond, hmore, Bool.not_true, Bool.false_eq_true, if_false]
  rw [if_neg (by omega), if_neg (by omega), if_neg (by omega), if_pos (by omega), hchar]

lemma utf8Step_four (hlow : 0x10000 ≤ c.toNat) (ha : a.toNat = c.toNat / 262144 + 240)
    (hb : b.toNat = c.toNat / 4096 % 64 + 128) (hd : d.toNat = c.toNat / 64 % 64 + 128)
    (he : e.toNat = c.toNat % 64 + 128) (rest : List UInt8) :
    utf8Step a (b :: d :: e :: rest) = .char c 4 := by
  have hvalid := toNat_valid c
  have hsecond : isSecond a b := isSecond_iff.mpr (by omega)
  have hmore : isContinuation d := isContinuation_iff.mpr (by omega)
  have hmore' : isContinuation e := isContinuation_iff.mpr (by omega)
  have hvalue : 64 * (64 * (64 * (a.toNat % 8) + b.toNat % 64) + d.toNat % 64) + e.toNat % 64 =
      c.toNat := by omega
  have hchar : utf8Char (a.toNat % 8) [b, d, e] = c := by
    simp only [utf8Char, List.foldl_cons, List.foldl_nil, continuationBits, hvalue,
      Char.ofNat_toNat]
  simp only [utf8Step, UInt8.lt_iff_toNat_lt, Bool.or_eq_true, decide_eq_true_eq,
    UInt8.reduceToNat, hsecond, hmore, hmore', Bool.not_true, Bool.false_eq_true, if_false,
    if_true]
  rw [if_neg (by omega), if_neg (by omega), if_neg (by omega), if_neg (by omega), hchar]

end

/-- The reader takes a character with all of the bytes that it is written as. -/
lemma utf8Step_utf8EncodeChar (c : Char) : ∃ first more, String.utf8EncodeChar c = first :: more ∧
    ∀ rest, utf8Step first (more ++ rest) = .char c (more.length + 1) := by
  have hbyte {n : ℕ} (h : n < 256) : (UInt8.ofNat n).toNat = n := by
    rw [UInt8.toNat_ofNat', Nat.mod_eq_of_lt h]
  have hvalid := toNat_valid c
  have hcode : c.val.toNat = c.toNat := rfl
  rw [String.utf8EncodeChar, hcode]
  split
  · exact ⟨_, [], rfl, utf8Step_one (by omega) (hbyte (by omega))⟩
  · split
    · refine ⟨_, [_], rfl, utf8Step_two (by omega) (by omega) ?_ ?_⟩
      · rw [hbyte (by omega)]
        omega
      · rw [hbyte (by omega)]
    · split
      · refine ⟨_, [_, _], rfl, utf8Step_three (by omega) (by omega) ?_ ?_ ?_⟩
        · rw [hbyte (by omega)]
          omega
        · rw [hbyte (by omega)]
        · rw [hbyte (by omega)]
      · refine ⟨_, [_, _, _], rfl, utf8Step_four (by omega) ?_ ?_ ?_ ?_⟩
        · rw [hbyte (by omega)]
          omega
        · rw [hbyte (by omega)]
        · rw [hbyte (by omega)]
        · rw [hbyte (by omega)]

/-! ### Texts -/

/-- Bytes that belong to what is already read are passed over. -/
lemma strictFrom_skip (position : ℕ) (skipped rest : List UInt8) :
    strictFrom position skipped.length (skipped ++ rest) =
      strictFrom (position + skipped.length) 0 rest := by
  induction skipped generalizing position with
  | nil => rfl
  | cons b skipped ih =>
      rw [List.length_cons, List.cons_append, strictFrom, ih, Nat.add_right_comm, Nat.add_assoc]

lemma strictFrom_flatMap (position : ℕ) (s : List Char) :
    strictFrom position 0 (s.flatMap String.utf8EncodeChar) = .ok s := by
  induction s generalizing position with
  | nil => rfl
  | cons c s ih =>
      obtain ⟨first, more, hbytes, hstep⟩ := utf8Step_utf8EncodeChar c
      rw [List.flatMap_cons, hbytes, List.cons_append, strictFrom, hstep]
      simp only [Nat.add_sub_cancel]
      rw [strictFrom_skip, ih]
      rfl

/-- What is written in UTF-8 is read back. -/
lemma decodeStrict_ofText (s : String) : decodeStrict (ofText s) = .ok s.toList :=
  strictFrom_flatMap 0 s.toList

end Sigil.Bytes
