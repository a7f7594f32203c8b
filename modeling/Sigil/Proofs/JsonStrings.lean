/-
# JSON strings are read back

Each character of a text is written on its own, as itself, with a letter after a backslash or with
the hexadecimal digits of its code point.  The reader gives each of them back, whatever follows, and
stops at the closing quote, for no character is written as a bare quote.
-/
import Sigil.Json.Reader
import Sigil.Json.Writer
import Sigil.Proofs.HexDigits

namespace Sigil

namespace Json

open Sigil.Text

/-! ### Characters -/

/-- The letter of an escape stands for the character that has it, and is not the mark of a code. -/
lemma unescape?_of_shortEscape? {c letter : Char} (h : shortEscape? c = some letter) :
    unescape? letter = some c ∧ letter ≠ 'u' := by
  unfold shortEscape? at h
  split at h <;> cases h <;> decide

/-- A character without escape of its own is neither the quote nor the backslash. -/
lemma ne_of_shortEscape?_eq_none {c : Char} (h : shortEscape? c = none) : c ≠ '"' ∧ c ≠ '\\' := by
  constructor <;> rintro rfl <;> simp [shortEscape?] at h

lemma codeUnit?_hexPadded {n : ℕ} (h : n < 0x20) {rest : List Char} (hrest : rest ≠ []) :
    codeUnit? (hexPadded 4 n ++ rest) = some n := by
  have hpos := List.length_pos_of_ne_nil hrest
  have hlength : ¬ (hexPadded 4 n ++ rest).length < 5 := by
    rw [List.length_append, length_hexPadded]
    omega
  rw [codeUnit?, if_neg hlength, List.take_left' (length_hexPadded 4 n),
    hexToNat?_hexPadded (by omega)]

/-- A control character is the one of its code unit. -/
lemma unitChar_toNat {c : Char} (h : c.toNat < 0x20) : unitChar c.toNat = c := by
  have hhigh : ¬ 0xD800 ≤ c.toNat := by omega
  simp [unitChar, hhigh]

/-- A written character is read as itself. -/
lemma readString_stringChar (start fuel : ℕ) (acc : List Char) (offset : ℕ) (c : Char)
    {rest : List Char} (hrest : rest ≠ []) :
    readString start (fuel + 1) acc offset (stringChar c ++ rest) =
      readString start fuel (c :: acc) (offset + (stringChar c).length) rest := by
  unfold stringChar
  cases hshort : shortEscape? c with
  | some letter =>
      obtain ⟨hletter, hne⟩ := unescape?_of_shortEscape? hshort
      simp [readString, hletter]
  | none =>
      obtain ⟨hquote, hslash⟩ := ne_of_shortEscape?_eq_none hshort
      by_cases hcontrol : c.toNat < 0x20
      · have hhigh : ¬ 0xD800 ≤ c.toNat := by omega
        have hdrop : (hexPadded 4 c.toNat ++ rest).drop 4 = rest :=
          List.drop_left' (length_hexPadded 4 _)
        simp [hcontrol, readString, codeUnit?_hexPadded hcontrol hrest, hhigh, hdrop,
          unitChar_toNat hcontrol]
      · simp [hcontrol, readString, hslash]

/-! ### Strings -/

/-- What stands before the closing quote is read to the text it was written for. -/
lemma readString_flatMap (start : ℕ) (s : List Char) {fuel : ℕ} (hfuel : s.length < fuel)
    (acc : List Char) (offset : ℕ) (rest : List Char) :
    readString start fuel acc offset (s.flatMap stringChar ++ '"' :: rest) =
      .ok (String.ofList (acc.reverse ++ s),
        ⟨offset + (s.flatMap stringChar).length + 1, rest⟩) := by
  induction s generalizing fuel acc offset with
  | nil =>
      obtain ⟨fuel, rfl⟩ : ∃ n, fuel = n + 1 := Nat.exists_eq_add_one.mpr hfuel
      simp [readString]
  | cons c s ih =>
      obtain ⟨fuel, rfl⟩ : ∃ n, fuel = n + 1 :=
        Nat.exists_eq_add_one.mpr (Nat.zero_lt_of_lt hfuel)
      rw [List.flatMap_cons, List.append_assoc, readString_stringChar _ _ _ _ _ (by simp),
        ih (by simpa using hfuel)]
      simp [Nat.add_assoc]

lemma stringChar_ne_nil (c : Char) : stringChar c ≠ [] := by
  unfold stringChar
  split
  · simp
  · split <;> simp

lemma length_le_length_flatMap (s : List Char) : s.length ≤ (s.flatMap stringChar).length := by
  induction s with
  | nil => simp
  | cons c s ih =>
      have hpos := List.length_pos_of_ne_nil (stringChar_ne_nil c)
      simp only [List.flatMap_cons, List.length_append, List.length_cons]
      omega

/-- A JSON string is read back as its text, whatever follows it. -/
lemma string_read (s : String) (offset : ℕ) (rest : List Char) :
    Cursor.string ⟨offset, string s ++ rest⟩ = .ok (s, ⟨offset + (string s).length, rest⟩) := by
  have hlength := length_le_length_flatMap s.toList
  have hshape : string s ++ rest = '"' :: (s.toList.flatMap stringChar ++ '"' :: rest) := by
    simp [string]
  rw [Cursor.string]
  simp only [hshape, List.drop_succ_cons, List.drop_zero]
  have hfuel : s.toList.length <
      ('"' :: (s.toList.flatMap stringChar ++ '"' :: rest)).length + 1 := by
    simp only [List.length_cons, List.length_append]
    omega
  rw [readString_flatMap _ _ hfuel]
  simp [string, Nat.add_assoc, Nat.add_comm, Nat.add_left_comm]

end Json

end Sigil
