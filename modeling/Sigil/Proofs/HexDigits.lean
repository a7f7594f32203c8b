/-
# Hexadecimal digits are read back

A digit gives its number back, and so do the digits of a number that fits.  A byte takes two digits,
so the first of them stands at twice the place of the byte.
-/
import Mathlib
import Sigil.Text.Hex

namespace Sigil.Text

/-! ### Digits of numbers -/

lemma hexValue?_hexDigit {n : ℕ} (h : n < 16) : hexValue? (hexDigit n) = some n := by
  have hall : ∀ n < 16, hexValue? (hexDigit n) = some n := by decide
  exact hall n h

@[simp] lemma length_hexPadded (width n : ℕ) : (hexPadded width n).length = width := by
  induction width generalizing n with
  | zero => rfl
  | succ width ih => simp [hexPadded, ih]

/-- The digits of a number that fits are read back as this number. -/
lemma hexToNat?_hexPadded {width n : ℕ} (h : n < 16 ^ width) :
    hexToNat? (hexPadded width n) = some n := by
  induction width generalizing n with
  | zero =>
      obtain rfl : n = 0 := by simpa using h
      rfl
  | succ width ih =>
      have hhigh : hexToNat? (hexPadded width (n / 16)) = some (n / 16) :=
        ih (by rw [pow_succ] at h; omega)
      have hlow := hexValue?_hexDigit (Nat.mod_lt n (by decide : 0 < 16))
      rw [hexToNat?] at hhigh
      rw [hexToNat?, hexPadded, List.foldlM_append, hhigh]
      simp [hlow, Nat.div_add_mod]

/-! ### Digits of bytes -/

lemma hexOfBytes_cons (b : UInt8) (bytes : List UInt8) :
    hexOfBytes (b :: bytes) =
      hexDigit (b.toNat / 16) :: hexDigit (b.toNat % 16) :: hexOfBytes bytes := by
  have hhigh : b.toNat / 16 % 16 = b.toNat / 16 := by
    have hlt := b.toNat_lt
    omega
  simp [hexOfBytes, hexPadded, hhigh]

/-- The digits of bytes are those of numbers below sixteen. -/
lemma exists_of_mem_hexOfBytes {c : Char} {bytes : List UInt8} (h : c ∈ hexOfBytes bytes) :
    ∃ n < 16, c = hexDigit n := by
  induction bytes with
  | nil => simp [hexOfBytes] at h
  | cons b bytes ih =>
      have hlt := b.toNat_lt
      rw [hexOfBytes_cons, List.mem_cons, List.mem_cons] at h
      rcases h with rfl | rfl | h
      · exact ⟨b.toNat / 16, by omega, rfl⟩
      · exact ⟨b.toNat % 16, by omega, rfl⟩
      · exact ih h

@[simp] lemma length_hexOfBytes (bytes : List UInt8) :
    (hexOfBytes bytes).length = 2 * bytes.length := by
  induction bytes with
  | nil => rfl
  | cons b bytes ih =>
      rw [hexOfBytes_cons, List.length_cons, List.length_cons, ih, List.length_cons]
      omega

/-- The first digit of a byte. -/
lemma getElem?_hexOfBytes (bytes : List UInt8) (i : ℕ) :
    (hexOfBytes bytes)[2 * i]? = bytes[i]?.map fun b => hexDigit (b.toNat / 16) := by
  induction bytes generalizing i with
  | nil => rfl
  | cons b bytes ih =>
      rw [hexOfBytes_cons]
      cases i with
      | zero => rfl
      | succ i => exact ih i

end Sigil.Text
