/-
# JSON numbers are read back

A number is written with a sign, digits, a fraction and an exponent, of which the first and the last
two may be missing.  The reader passes over exactly these characters where none follows that could
belong to a number as well.  An integer has neither fraction nor exponent, and its digits are read
back to it; a float always has one of them, so the two are not confused.  The digits of a float do
not begin with a zero that others follow, since the shortest decimal of a float that is not zero is
not zero either.
-/
import Sigil.Json.Reader
import Sigil.Json.Writer
import Mathlib

namespace Sigil

open Sigil.Text

/-! ### Digits -/

namespace Decimal

open Sigil.Json (isAsciiDigit)

lemma isAsciiDigit_iff {c : Char} : isAsciiDigit c ↔ 48 ≤ c.toNat ∧ c.toNat ≤ 57 := by
  rw [isAsciiDigit, Bool.and_eq_true, decide_eq_true_iff, decide_eq_true_iff]
  rfl

lemma isAsciiDigit_of_mem_natDigits {n : ℕ} {c : Char} (h : c ∈ natDigits n) : isAsciiDigit c := by
  have hdigit := Nat.isDigit_of_mem_toDigits (by decide) (by decide) h
  simp only [Char.isDigit, Bool.and_eq_true, decide_eq_true_iff] at hdigit
  rw [isAsciiDigit, Bool.and_eq_true, decide_eq_true_iff, decide_eq_true_iff]
  exact hdigit

lemma natDigits_ne_nil (n : ℕ) : natDigits n ≠ [] := Nat.toDigits_ne_nil

/-- The digits of a positive number do not begin with a zero. -/
lemma head?_natDigits {n : ℕ} (h : n ≠ 0) : (natDigits n).head? ≠ some '0' := by
  induction n using Nat.strong_induction_on with
  | _ n ih =>
    rw [natDigits, Nat.toDigits_eq_if (by decide)]
    split
    · have hall : ∀ n < 10, n ≠ 0 → [n.digitChar].head? ≠ some '0' := by decide
      exact hall n ‹_› h
    · rw [← natDigits, List.head?_append_of_ne_nil _ (natDigits_ne_nil _)]
      exact ih (n / 10) (by omega) (by omega)

lemma digitValue?_of_isAsciiDigit {c : Char} (h : isAsciiDigit c) :
    digitValue? c = some (c.toNat - 48) := by
  obtain ⟨hlow, hhigh⟩ := isAsciiDigit_iff.mp h
  have hfirst : digitZeros.find? (fun z => z ≤ c.toNat && c.toNat < z + 10) = some 48 := by
    rw [digitZeros, List.find?_cons_of_pos (by simpa using ⟨hlow, by omega⟩)]
  rw [digitValue?, hfirst, Option.map_some]

lemma isDigit_of_isAsciiDigit {c : Char} (h : isAsciiDigit c) : isDigit c := by
  rw [isDigit, digitValue?_of_isAsciiDigit h, Option.isSome_some]

lemma digitsValue_append (s : List Char) (c : Char) :
    digitsValue (s ++ [c]) = 10 * digitsValue s + (digitValue? c).getD 0 := by
  simp [digitsValue, List.foldl_append]

/-- The digits of a number are read back to it. -/
lemma digitsValue_natDigits (n : ℕ) : digitsValue (natDigits n) = n := by
  have hdigit : ∀ n < 10, (digitValue? n.digitChar).getD 0 = n := by decide
  induction n using Nat.strong_induction_on with
  | _ n ih =>
    rw [natDigits, Nat.toDigits_eq_if (by decide)]
    split
    · simpa [digitsValue] using hdigit n ‹_›
    · rw [digitsValue_append, hdigit _ (by omega), ← natDigits, ih (n / 10) (by omega)]
      omega

/-! ### Integers -/

lemma isBlank_of_isAsciiDigit {c : Char} (h : isAsciiDigit c) : isBlank c = false := by
  obtain ⟨hlow, hhigh⟩ := isAsciiDigit_iff.mp h
  simp [isBlank, blankRanges, inRanges]
  omega

lemma stripNumeral_eq_self {s : List Char} (h : ∀ c ∈ s, isBlank c = false) :
    stripNumeral s = s := by
  have hdrop (t : List Char) (ht : ∀ c ∈ t, isBlank c = false) :
      t.dropWhile isNumeralBlank = t := by
    cases t with
    | nil => rfl
    | cons c t => rw [List.dropWhile_cons_of_neg (by simp [isNumeralBlank, ht c (by simp)])]
  rw [stripNumeral, hdrop s h, hdrop s.reverse (by simpa using h), List.reverse_reverse]

lemma separatesDigits_of_forall {s : List Char} (h : ∀ c ∈ s, isAsciiDigit c) (b : Bool) :
    separatesDigits b s := by
  induction s generalizing b with
  | nil => rfl
  | cons c s ih =>
      have hc : c ≠ '_' := by
        rintro rfl
        exact absurd (h '_' (by simp)) (by decide)
      rw [separatesDigits]
      · exact ih (fun d hd => h d (by simp [hd])) _
      · exact hc

lemma forall_natDigits_not_blank (n : ℕ) : ∀ c ∈ natDigits n, isBlank c = false := fun _ hc =>
  isBlank_of_isAsciiDigit (isAsciiDigit_of_mem_natDigits hc)

lemma forall_ofInt_not_blank (n : ℤ) : ∀ c ∈ (ofInt n).toList, isBlank c = false := by
  rw [ofInt, String.toList_ofList]
  split
  · simpa using ⟨by decide, forall_natDigits_not_blank n.natAbs⟩
  · exact forall_natDigits_not_blank n.natAbs

/-- Digits have no sign. -/
lemma takeSign_of_forall {s : List Char} (h : ∀ c ∈ s, isAsciiDigit c) :
    takeSign s = (false, s) := by
  rw [takeSign.eq_3]
  · intro rest hrest
    exact absurd (h '-' (by simp [hrest])) (by decide)
  · intro rest hrest
    exact absurd (h '+' (by simp [hrest])) (by decide)

/-- The sign of a written integer is found before its digits. -/
lemma takeSign_ofInt (n : ℤ) :
    takeSign (ofInt n).toList = (decide (n < 0), natDigits n.natAbs) := by
  have hdigits : ∀ c ∈ natDigits n.natAbs, isAsciiDigit c := fun c => isAsciiDigit_of_mem_natDigits
  rw [ofInt, String.toList_ofList]
  by_cases hneg : n < 0
  · simp [hneg, takeSign]
  · rw [if_neg hneg, takeSign_of_forall hdigits, decide_eq_false hneg]

/-- Digits after a sign are read as their value unless they are more than are read. -/
lemma readInt_of_takeSign {text : String} {negative : Bool} {digits : List Char}
    (hsign : takeSign (stripNumeral text.toList) = (negative, digits)) (hne : digits ≠ [])
    (hdigits : ∀ c ∈ digits, isAsciiDigit c) :
    readInt text =
      if digitLimit < digits.length then .error (.tooManyDigits digits.length)
      else .ok (if negative then -(digitsValue digits : ℤ) else digitsValue digits) := by
  have hrun : digits.takeWhile (fun c => isDigit c || c == '_') = digits := by
    rw [List.takeWhile_eq_self_iff]
    intro c hc
    simp [isDigit_of_isAsciiDigit (hdigits c hc)]
  have hfilter : digits.filter isDigit = digits :=
    List.filter_eq_self.mpr fun c hc => isDigit_of_isAsciiDigit (hdigits c hc)
  simp only [readInt, hsign, hrun, hfilter, separatesDigits_of_forall hdigits]
  simp [hne]

/-- The text of an integer is read back to it unless it has more digits than are read. -/
lemma readInt_ofInt_eq (n : ℤ) :
    readInt (ofInt n) =
      if digitLimit < (natDigits n.natAbs).length then
        .error (.tooManyDigits (natDigits n.natAbs).length)
      else .ok n := by
  have hdigits : ∀ c ∈ natDigits n.natAbs, isAsciiDigit c := fun c => isAsciiDigit_of_mem_natDigits
  have hsign : takeSign (stripNumeral (ofInt n).toList) =
      (decide (n < 0), natDigits n.natAbs) := by
    rw [stripNumeral_eq_self (forall_ofInt_not_blank n), takeSign_ofInt]
  have hvalue : (if decide (n < 0) then -(n.natAbs : ℤ) else n.natAbs) = n := by
    by_cases hneg : n < 0
    · simp [hneg, abs_of_neg]
    · simp [hneg, abs_of_nonneg (not_lt.mp hneg)]
  rw [readInt_of_takeSign hsign (natDigits_ne_nil _) hdigits, digitsValue_natDigits, hvalue]

lemma length_natDigits_le_iff (n : ℕ) :
    (natDigits n).length ≤ digitLimit ↔ n < 10 ^ digitLimit := by
  rw [natDigits, Nat.length_toDigits_le_iff (by decide) (by simp [digitLimit])]

/-- An integer of three digits is far from the limit. -/
lemma natAbs_lt_of_lt {n : ℤ} (h : n.natAbs < 10 ^ 3) : n.natAbs < 10 ^ digitLimit :=
  h.trans_le (Nat.pow_le_pow_right (by decide) (by decide))

/-- The text of an integer that has no more digits than are read is read back to it. -/
lemma readInt_ofInt {n : ℤ} (h : n.natAbs < 10 ^ digitLimit) : readInt (ofInt n) = .ok n := by
  rw [readInt_ofInt_eq, if_neg (not_lt.mpr ((length_natDigits_le_iff _).mpr h))]

/-! ### Finite floats -/

/-- The exponent field of a finite float is not all ones. -/
lemma unpackExponent_ne {b : UInt64} (h : Binary.isFiniteBits b) :
    Float.Model.UnpackedFloat.unpackExponent
      (show BitVec (Float.Model.Format.numBits .binary64) from b.toBitVec) ≠ -1#11 := by
  intro hexponent
  have hnat := congrArg BitVec.toNat hexponent
  have hfield : ((b >>> 52) &&& 0x7FF).toNat = 0x7FF := by
    simp only [Float.Model.UnpackedFloat.unpackExponent, BitVec.toNat_cast] at hnat
    rw [UInt64.toNat_and, UInt64.toNat_shiftRight]
    simp at hnat ⊢
    rw [show (2047 : ℕ) = 2 ^ 11 - 1 from rfl, Nat.and_two_pow_sub_one_eq_mod]
    exact hnat
  have hmask : (b >>> 52) &&& 0x7FF = 0x7FF := UInt64.toNat_inj.mp hfield
  simp [Binary.isFiniteBits, hmask] at h

lemma isNaN_of_isFiniteBits {x : Float} (h : Binary.isFiniteBits x.toBits) : x.isNaN = false := by
  change (Float.Model.UnpackedFloat.unpack .binary64 x.toBits.toBitVec).isNaN = false
  unfold Float.Model.UnpackedFloat.unpack
  simp only
  rw [if_neg (unpackExponent_ne h)]
  split
  · split <;> rfl
  · rfl

/-! ### The shortest decimal -/

lemma compareScaled_zero {n : ℕ} (h : n ≠ 0) (i j : ℤ) : compareScaled 0 i n j = .lt := by
  have hpos : 0 < n * Nat.pow 2 j.toNat * Nat.pow 10 (-i).toNat :=
    Nat.mul_pos (Nat.mul_pos (Nat.pos_of_ne_zero h) (Nat.pow_pos (by decide)))
      (Nat.pow_pos (by decide))
  rw [compareScaled, Nat.zero_mul, Nat.zero_mul]
  exact Nat.compare_eq_lt.mpr hpos

/-- Zero does not round to a float that is not zero. -/
lemma digits_ne_zero_of_readsBack {d : Binary} (hd : d.significand ≠ 0) {s : Scaled}
    (h : readsBack d s) : s.digits ≠ 0 := by
  intro hzero
  have hlow : (if narrowBelow d then 4 * d.significand - 1 else 4 * d.significand - 2) ≠ 0 := by
    split <;> omega
  simp [readsBack, hzero, compareScaled_zero hlow] at h

lemma digits_stripZeros {fuel : ℕ} {s : Scaled} (h : s.digits ≠ 0) :
    (stripZeros fuel s).digits ≠ 0 := by
  induction fuel generalizing s with
  | zero => exact h
  | succ fuel ih =>
      rw [stripZeros]
      split
      · next hzero =>
          simp only [bne_iff_ne, Bool.and_eq_true, beq_iff_eq] at hzero
          exact ih (by dsimp only; omega)
      · exact h

/-- The shortest decimal of a float that is not zero is not zero. -/
lemma digits_shortest {d : Binary} (h : d.significand ≠ 0) : (shortest d).digits ≠ 0 := by
  refine digits_stripZeros ?_
  cases hfound : (List.range 17).findSome? (fun (n : ℕ) =>
      (neighbours d (decimalScale d - (n + 1))).find? (readsBack d)) with
  | none =>
      exact Nat.ne_of_gt (Nat.mul_pos (Nat.mul_pos (Nat.pos_of_ne_zero h)
        (Nat.pow_pos (by decide))) (Nat.pow_pos (by decide)))
  | some s =>
      obtain ⟨n, -, hn⟩ := List.exists_of_findSome?_eq_some hfound
      exact digits_ne_zero_of_readsBack h (List.find?_some hn)

end Decimal

namespace Json

open Decimal

/-! ### The parts of a number -/

/-- Digits, a fraction and an exponent make up a number without sign. -/
structure IsNumeral (whole fraction exponent : List Char) : Prop where
  /-- There are digits before the fraction. -/
  whole_ne_nil : whole ≠ []
  /-- They are digits. -/
  whole_digits : ∀ c ∈ whole, isAsciiDigit c
  /-- A zero at their start is the only one. -/
  leading : whole.head? = some '0' → whole = ['0']
  /-- The fraction is missing, or it is a point with digits. -/
  fraction : fraction = [] ∨ ∃ ds, ds ≠ [] ∧ (∀ c ∈ ds, isAsciiDigit c) ∧ fraction = '.' :: ds
  /-- The exponent is missing, or it is a mark with a sign and digits. -/
  exponent : exponent = [] ∨ ∃ sign ds, (sign = '-' ∨ sign = '+') ∧ ds ≠ [] ∧
    (∀ c ∈ ds, isAsciiDigit c) ∧ exponent = 'e' :: sign :: ds

/-- The text goes on with nothing that could belong to a number. -/
def Delimited (rest : List Char) : Prop :=
  ∀ c ∈ rest.head?, isAsciiDigit c = false ∧ c ≠ '.' ∧ c ≠ 'e' ∧ c ≠ 'E'

/-- The characters of one kind are taken up to the first of another kind. -/
lemma takeWhile_append_stop {p : Char → Bool} {s rest : List Char} (hs : ∀ c ∈ s, p c)
    (hrest : ∀ c ∈ rest.head?, p c = false) : (s ++ rest).takeWhile p = s := by
  rw [List.takeWhile_append_of_pos hs]
  cases rest with
  | nil => simp
  | cons c rest => simp [hrest c (by simp)]

lemma dropWhile_append_stop {p : Char → Bool} {s rest : List Char} (hs : ∀ c ∈ s, p c)
    (hrest : ∀ c ∈ rest.head?, p c = false) : (s ++ rest).dropWhile p = rest := by
  rw [List.dropWhile_append_of_pos hs]
  cases rest with
  | nil => rfl
  | cons c rest => rw [List.dropWhile_cons_of_neg (by simp [hrest c (by simp)])]

variable {whole fraction exponent rest : List Char}

lemma IsNumeral.exponentPart (h : IsNumeral whole fraction exponent) (hrest : Delimited rest) :
    exponentPart (exponent ++ rest) = exponent := by
  obtain rfl | ⟨sign, ds, hsign, hne, hds, rfl⟩ := h.exponent
  · cases rest with
    | nil => rfl
    | cons c rest =>
        obtain ⟨-, -, hlower, hupper⟩ := hrest c (by simp)
        simp [Json.exponentPart, hlower, hupper]
  · have htake := takeWhile_append_stop hds fun c hc => (hrest c hc).1
    obtain rfl | rfl := hsign <;> simp [Json.exponentPart, htake, hne]

lemma IsNumeral.fractionPart (h : IsNumeral whole fraction exponent) (hrest : Delimited rest) :
    fractionPart (fraction ++ (exponent ++ rest)) = fraction := by
  have hmore : ∀ c ∈ (exponent ++ rest).head?, isAsciiDigit c = false ∧ c ≠ '.' := by
    obtain rfl | ⟨sign, ds, -, -, -, rfl⟩ := h.exponent
    · exact fun c hc => ⟨(hrest c hc).1, (hrest c hc).2.1⟩
    · simp
      decide
  obtain rfl | ⟨ds, hne, hds, rfl⟩ := h.fraction
  · rw [List.nil_append]
    unfold Json.fractionPart
    split
    · next hshape => exact absurd rfl (hmore '.' (by simp [hshape])).2
    · rfl
  · have htake := takeWhile_append_stop hds fun c hc => (hmore c hc).1
    simp [Json.fractionPart, htake, hne]

lemma IsNumeral.integerDigits (h : IsNumeral whole fraction exponent) (hrest : Delimited rest) :
    integerDigits (whole ++ (fraction ++ (exponent ++ rest))) = whole := by
  have hmore : ∀ c ∈ (fraction ++ (exponent ++ rest)).head?, isAsciiDigit c = false := by
    obtain rfl | ⟨ds, -, -, rfl⟩ := h.fraction
    · obtain rfl | ⟨sign, ds, -, -, -, rfl⟩ := h.exponent
      · exact fun c hc => (hrest c hc).1
      · simp
        decide
    · simp
      decide
  by_cases hzero : whole.head? = some '0'
  · rw [h.leading hzero]
    rfl
  · have htake := takeWhile_append_stop h.whole_digits hmore
    unfold Json.integerDigits
    split
    · next hshape =>
        obtain ⟨c, ds, rfl⟩ := List.exists_cons_of_ne_nil h.whole_ne_nil
        obtain ⟨rfl, -⟩ := List.cons.inj hshape
        simp at hzero
    · exact htake

/-- The text of a number with a sign, or none, before it. -/
def numeral (negative : Bool) (whole fraction exponent : List Char) : List Char :=
  (if negative then ['-'] else []) ++ whole ++ fraction ++ exponent

/-- The reader passes over a number as a whole: without fraction and exponent it is read as an
integer, and otherwise as a float. -/
lemma IsNumeral.number (h : IsNumeral whole fraction exponent) (negative : Bool)
    (hrest : Delimited rest) (offset : ℕ) :
    Cursor.number ⟨offset, numeral negative whole fraction exponent ++ rest⟩ =
      (let text := numeral negative whole fraction exponent
      if fraction.isEmpty && exponent.isEmpty then
        ((readInt (String.ofList text)).mapError .numeral).map fun n =>
          (.int n, ⟨offset + text.length, rest⟩)
      else .ok (.float ((readFloat? (String.ofList text)).getD 0),
        ⟨offset + text.length, rest⟩)) := by
  have hsign : (if (numeral negative whole fraction exponent ++ rest).head? == some '-'
      then ['-'] else []) = if negative then ['-'] else [] := by
    cases negative with
    | true => rfl
    | false =>
        obtain ⟨c, ds, rfl⟩ := List.exists_cons_of_ne_nil h.whole_ne_nil
        have hc : c ≠ '-' := by
          rintro rfl
          exact absurd (h.whole_digits '-' (by simp)) (by decide)
        simp [numeral, hc]
  have hunsigned : (numeral negative whole fraction exponent ++ rest).drop
      (if negative then ['-'] else []).length = whole ++ (fraction ++ (exponent ++ rest)) := by
    cases negative <;> simp [numeral]
  have hfraction : (whole ++ (fraction ++ (exponent ++ rest))).drop whole.length =
      fraction ++ (exponent ++ rest) := List.drop_left
  have hexponent : (whole ++ (fraction ++ (exponent ++ rest))).drop
      (whole.length + fraction.length) = exponent ++ rest := by
    rw [← List.drop_drop, hfraction, List.drop_left]
  have hwhole : whole.isEmpty = false := by simpa using h.whole_ne_nil
  simp only [Cursor.number, hsign, hunsigned, h.integerDigits hrest, hfraction,
    h.fractionPart hrest, hexponent, h.exponentPart hrest, hwhole, Cursor.advance]
  simp only [← numeral.eq_1, List.drop_left]
  cases fraction.isEmpty && exponent.isEmpty with
  | false => rfl
  | true => cases readInt (String.ofList (numeral negative whole fraction exponent)) <;> rfl

/-! ### Integers and floats -/

lemma isNumeral_natDigits (n : ℕ) : IsNumeral (natDigits n) [] [] where
  whole_ne_nil := natDigits_ne_nil n
  whole_digits _ := isAsciiDigit_of_mem_natDigits
  leading h := by
    by_cases hn : n = 0
    · rw [hn]
      rfl
    · exact absurd h (head?_natDigits hn)
  fraction := .inl rfl
  exponent := .inl rfl

lemma toList_ofInt (n : ℤ) :
    (ofInt n).toList = numeral (decide (n < 0)) (natDigits n.natAbs) [] [] := by
  by_cases hneg : n < 0 <;> simp [ofInt, numeral, hneg]

/-- An integer is read back. -/
lemma number_ofInt {n : ℤ} (h : n.natAbs < 10 ^ digitLimit) (hrest : Delimited rest) (offset : ℕ) :
    Cursor.number ⟨offset, (ofInt n).toList ++ rest⟩ =
      .ok (.int n, ⟨offset + (ofInt n).toList.length, rest⟩) := by
  have hread : readInt (String.ofList (numeral (decide (n < 0)) (natDigits n.natAbs) [] [])) =
      .ok n := by
    rw [← toList_ofInt, String.ofList_toList, readInt_ofInt h]
  rw [toList_ofInt, (isNumeral_natDigits n.natAbs).number _ hrest]
  simp only [hread, List.isEmpty_nil, Bool.and_self, if_true, Except.mapError, Except.map]

lemma isAsciiDigit_of_mem_padZeros {width n : ℕ} {c : Char} (h : c ∈ padZeros width (natDigits n)) :
    isAsciiDigit c := by
  obtain h | h := List.mem_append.mp h
  · rw [List.eq_of_mem_replicate h]
    decide
  · exact isAsciiDigit_of_mem_natDigits h

lemma isAsciiDigit_of_mem_replicate {n : ℕ} {c : Char} (h : c ∈ List.replicate n '0') :
    isAsciiDigit c := by
  rw [List.eq_of_mem_replicate h]
  decide

lemma isAsciiDigit_of_mem_zero {c : Char} (h : c ∈ ['0']) : isAsciiDigit c :=
  isAsciiDigit_of_mem_replicate (n := 1) h

/-- A first digit, the others after the point if there are any, and an exponent. -/
lemma exists_isNumeral_exponential {d : Char} {ds : List Char}
    (hdigits : ∀ c ∈ d :: ds, isAsciiDigit c) {sign : Char} (hsign : sign = '-' ∨ sign = '+')
    (n : ℕ) :
    ∃ whole fraction exponent, (match d :: ds with
        | [d] => [d]
        | d :: rest => d :: '.' :: rest
        | [] => []) ++ 'e' :: sign :: padZeros 2 (natDigits n) = whole ++ fraction ++ exponent ∧
      IsNumeral whole fraction exponent ∧ (fraction ≠ [] ∨ exponent ≠ []) := by
  have hnumeral (fraction : List Char) (hfraction : fraction = [] ∨ ∃ ds, ds ≠ [] ∧
      (∀ c ∈ ds, isAsciiDigit c) ∧ fraction = '.' :: ds) :
      IsNumeral [d] fraction ('e' :: sign :: padZeros 2 (natDigits n)) :=
    { whole_ne_nil := by simp
      whole_digits := fun c hc => hdigits c (by simp_all)
      leading := fun hzero => by simpa using hzero
      fraction := hfraction
      exponent := .inr ⟨sign, _, hsign, by simp [padZeros, natDigits_ne_nil],
        fun c => isAsciiDigit_of_mem_padZeros, rfl⟩ }
  cases ds with
  | nil => exact ⟨[d], [], _, rfl, hnumeral [] (.inl rfl), .inr (by simp)⟩
  | cons d' ds =>
      refine ⟨[d], '.' :: d' :: ds, _, rfl, hnumeral _ (.inr ⟨d' :: ds, by simp, ?_, rfl⟩),
        .inl (by simp)⟩
      exact fun c hc => hdigits c (List.mem_cons_of_mem _ hc)

/-- Digits before a point and digits after it. -/
lemma isNumeral_point {whole ds : List Char} (hwhole : ∀ c ∈ whole, isAsciiDigit c)
    (hne : whole ≠ []) (hleading : whole.head? = some '0' → whole = ['0']) (hds : ds ≠ [])
    (hdigits : ∀ c ∈ ds, isAsciiDigit c) : IsNumeral whole ('.' :: ds) [] where
  whole_ne_nil := hne
  whole_digits := hwhole
  leading := hleading
  fraction := .inr ⟨ds, hds, hdigits, rfl⟩
  exponent := .inl rfl

/-- Every layout of a decimal that is not zero is a number with a fraction or an exponent. -/
lemma exists_isNumeral_scaled {s : Scaled} (h : s.digits ≠ 0) :
    ∃ whole fraction exponent, natural.scaled s = whole ++ fraction ++ exponent ∧
      IsNumeral whole fraction exponent ∧ (fraction ≠ [] ∨ exponent ≠ []) := by
  obtain ⟨d, ds, hshape⟩ := List.exists_cons_of_ne_nil (natDigits_ne_nil s.digits)
  have hdigits : ∀ c ∈ d :: ds, isAsciiDigit c := fun c hc =>
    isAsciiDigit_of_mem_natDigits (hshape ▸ hc)
  have hd : d ≠ '0' := by
    have hhead := head?_natDigits h
    rw [hshape] at hhead
    simpa using hhead
  have hleading (zs : List Char) : (d :: zs).head? = some '0' → d :: zs = ['0'] := fun hzero =>
    absurd (by simpa using hzero) hd
  simp only [Layout.scaled, natural, hshape]
  split
  · refine exists_isNumeral_exponential hdigits ?_ _
    split
    · exact .inl rfl
    · exact .inr rfl
  split
  · -- the digits with zeros after them, and a zero after the point
    refine ⟨d :: (ds ++ List.replicate s.exponent.toNat '0'), ['.', '0'], [], by simp,
      isNumeral_point (fun c hc => ?_) (by simp) (hleading _) (by simp)
        (fun _ => isAsciiDigit_of_mem_zero), .inl (by simp)⟩
    rw [← List.cons_append] at hc
    obtain hc | hc := List.mem_append.mp hc
    · exact hdigits c hc
    · exact isAsciiDigit_of_mem_replicate hc
  split
  · -- a zero before the point, and zeros and the digits after it
    refine ⟨['0'], '.' :: (List.replicate _ '0' ++ d :: ds), [], by simp; rfl,
      isNumeral_point (fun _ => isAsciiDigit_of_mem_zero) (by simp) (fun _ => rfl) (by simp)
        (fun c hc => ?_), .inl (by simp)⟩
    obtain hc | hc := List.mem_append.mp hc
    · exact isAsciiDigit_of_mem_replicate hc
    · exact hdigits c hc
  · -- the point stands between the digits
    next hnegative hlead =>
    obtain ⟨k, hk⟩ : ∃ k, (s.exponent + (d :: ds).length - 1 + 1).toNat = k + 1 :=
      ⟨(s.exponent + (d :: ds).length - 1).toNat, by omega⟩
    have hlength : k < ds.length := by
      simp only [List.length_cons] at hk
      omega
    rw [hk, List.take_succ_cons, List.drop_succ_cons]
    refine ⟨d :: ds.take k, '.' :: ds.drop k, [], by simp,
      isNumeral_point (fun c hc => ?_) (by simp) (hleading _) (by simpa using hlength)
        (fun c hc => ?_), .inl (by simp)⟩
    · obtain rfl | hc := List.mem_cons.mp hc
      · exact hdigits c (by simp)
      · exact hdigits c (List.mem_cons_of_mem _ (List.mem_of_mem_take hc))
    · exact hdigits c (List.mem_cons_of_mem _ (List.mem_of_mem_drop hc))

/-- The text of a finite float is a number with a fraction or an exponent. -/
lemma exists_isNumeral_ofFloat {x : Float} (h : Binary.isFiniteBits x.toBits) :
    ∃ negative whole fraction exponent,
      (Decimal.ofFloat x).toList = numeral negative whole fraction exponent ∧
        IsNumeral whole fraction exponent ∧ (fraction ≠ [] ∨ exponent ≠ []) := by
  obtain ⟨whole, fraction, exponent, hbody, hnumeral, hne⟩ : ∃ whole fraction exponent,
      (if (Binary.ofBits x.toBits).significand == 0 then ['0', '.', '0']
        else natural.scaled (shortest (Binary.ofBits x.toBits))) = whole ++ fraction ++ exponent ∧
      IsNumeral whole fraction exponent ∧ (fraction ≠ [] ∨ exponent ≠ []) := by
    split
    · exact ⟨['0'], ['.', '0'], [], rfl,
        isNumeral_point (fun _ => isAsciiDigit_of_mem_zero) (by simp) (fun _ => rfl) (by simp)
          (fun _ => isAsciiDigit_of_mem_zero), .inl (by simp)⟩
    · next hzero => exact exists_isNumeral_scaled (digits_shortest (by simpa using hzero))
  refine ⟨(Binary.ofBits x.toBits).negative, whole, fraction, exponent, ?_, hnumeral, hne⟩
  simp only [ofFloat, Layout.render, Binary.ofFloat?, h, if_true, hbody, String.toList_ofList]
  split <;> simp [numeral, *]

lemma number_of_isFiniteBits {x : Float} (h : Binary.isFiniteBits x.toBits) :
    Json.number x = Decimal.ofFloat x := by
  rw [Json.number, isNaN_of_isFiniteBits h, if_neg (by simp), if_pos h]

/-- A finite float is read back if its text reads as the float. -/
lemma number_ofFloat {x : Float} (h : Binary.isFiniteBits x.toBits)
    (hread : readFloat? (Decimal.ofFloat x) = some x) (hrest : Delimited rest) (offset : ℕ) :
    Cursor.number ⟨offset, (Json.number x).toList ++ rest⟩ =
      .ok (.float x, ⟨offset + (Json.number x).toList.length, rest⟩) := by
  obtain ⟨negative, whole, fraction, exponent, hshape, hnumeral, hne⟩ := exists_isNumeral_ofFloat h
  have hread' : readFloat? (String.ofList (numeral negative whole fraction exponent)) = some x := by
    rw [← hshape, String.ofList_toList, hread]
  have hparts : (fraction.isEmpty && exponent.isEmpty) = false := by
    simpa [List.isEmpty_iff, or_iff_not_imp_left] using hne
  rw [number_of_isFiniteBits h, hshape, hnumeral.number _ hrest]
  simp only [hread', hparts, Option.getD_some, Bool.false_eq_true, if_false]

end Json

end Sigil
