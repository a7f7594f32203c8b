/-
# Integers as floats

An integer becomes the float nearest to it, which is an integer again: its first 53 binary digits,
rounded, with zeros behind them.  The floats among the integers are the multiples of the last place
that is kept; no other one is nearer to an integer than the one it becomes.
-/
import Sigil.Proofs.FloatSums

namespace Sigil

open Decimal (Binary)
open Decimal.Binary

/-! ### Values -/

namespace Decimal.Binary

variable {d : Binary} {k : ℤ}

lemma value_neg_exponent (h : ¬ 0 ≤ d.exponent) :
    d.value * 2 ^ (-d.exponent).toNat = d.signed := by
  have hcancel : (2 : ℚ) ^ d.exponent * 2 ^ (-d.exponent).toNat = 1 := by
    rw [← zpow_natCast, Int.toNat_of_nonneg (by omega), ← zpow_add₀ two_ne_zero, add_neg_cancel,
      zpow_zero]
  rw [value, mul_assoc, hcancel, mul_one]

lemma value_of_nonneg_exponent (h : 0 ≤ d.exponent) :
    d.value = (d.signed * Int.pow 2 d.exponent.toNat : ℤ) := by
  have hexponent : d.exponent = (d.exponent.toNat : ℤ) := by omega
  rw [value, hexponent, zpow_natCast, Int.toNat_natCast]
  push_cast [Int.pow_eq]
  rfl

lemma floor_eq : d.floor = ⌊d.value⌋ := by
  unfold floor
  split
  · next h => rw [value_of_nonneg_exponent h, Int.floor_intCast]
  · next h =>
      have hpos : (0 : ℚ) < 2 ^ (-d.exponent).toNat := by positivity
      have hquotient : d.value = (d.signed : ℚ) / ((2 ^ (-d.exponent).toNat : ℕ) : ℚ) := by
        rw [← value_neg_exponent h, Nat.cast_pow, Nat.cast_ofNat, mul_div_cancel_right₀ _ hpos.ne']
      rw [hquotient, Rat.floor_intCast_div_natCast, Int.pow_eq,
        Int.fdiv_eq_ediv_of_nonneg _ (by positivity)]
      push_cast
      rfl

/-- The integer part of an integral value is the value. -/
lemma truncate_eq (h : d.value = k) : d.truncate = k := by
  unfold truncate
  split
  · next hexponent =>
      rw [value_of_nonneg_exponent hexponent] at h
      exact_mod_cast h
  · next hexponent =>
      have hsigned := value_neg_exponent hexponent
      rw [h] at hsigned
      have hint : k * Int.pow 2 (-d.exponent).toNat = d.signed := by
        rw [Int.pow_eq]
        exact_mod_cast hsigned
      rw [← hint, Int.mul_tdiv_cancel _ (by rw [Int.pow_eq]; positivity)]

end Decimal.Binary

/-! ### The nearest integer -/

/-- The integer that is nearest to an integer among the floats, a half going to the even one. -/
def nearestInteger (n : ℤ) : ℤ :=
  let dropped := bitLength n.natAbs - 53
  n.sign * (roundShift n.natAbs dropped * 2 ^ dropped : ℕ)

/-- The nearest float is finite. -/
def FitsFloat (n : ℤ) : Prop := (nearestInteger n).natAbs < 2 ^ 1024

lemma natAbs_nearestInteger (n : ℤ) : (nearestInteger n).natAbs =
    roundShift n.natAbs (bitLength n.natAbs - 53) * 2 ^ (bitLength n.natAbs - 53) := by
  rcases eq_or_ne n 0 with rfl | h
  · decide +kernel
  · rw [nearestInteger, Int.natAbs_mul, Int.natAbs_sign_of_ne_zero h, one_mul, Int.natAbs_natCast]

lemma nearestInteger_eq_sign_mul (n : ℤ) :
    nearestInteger n = n.sign * ((nearestInteger n).natAbs : ℤ) := by
  rw [natAbs_nearestInteger, nearestInteger]

/-- The floats among the integers are the multiples of the place that is kept last. -/
lemma nearestInteger_eq_self_iff {n : ℤ} :
    nearestInteger n = n ↔ 2 ^ (bitLength n.natAbs - 53) ∣ n.natAbs := by
  have habs : nearestInteger n = n ↔ (nearestInteger n).natAbs = n.natAbs := by
    refine ⟨congrArg Int.natAbs, fun h => ?_⟩
    rw [nearestInteger_eq_sign_mul, h, Int.sign_mul_natAbs]
  rw [habs, natAbs_nearestInteger]
  constructor
  · exact Dvd.intro_left _
  · rintro ⟨c, hc⟩
    rw [roundShift_of_below (c := c) (r := 0) (by rw [mul_comm]; exact hc) (Nat.two_pow_pos _),
      mul_comm, ← hc]

/-- Integers of at most 53 binary digits are floats. -/
lemma nearestInteger_of_le {n : ℤ} (h : n.natAbs ≤ 2 ^ 53) : nearestInteger n = n := by
  rw [nearestInteger_eq_self_iff]
  rcases h.lt_or_eq with h | h
  · rw [Nat.sub_eq_zero_of_le (bitLength_le_iff.mpr h), pow_zero]
    exact one_dvd _
  · rw [h]
    decide +kernel

/-- The nearest integer is a float. -/
lemma nearestInteger_nearestInteger (n : ℤ) :
    nearestInteger (nearestInteger n) = nearestInteger n := by
  have hbound : roundShift n.natAbs (bitLength n.natAbs - 53) ≤ 2 ^ 53 := by
    refine (roundShift_le _ _).trans (Nat.div_lt_of_lt_mul ?_)
    rw [← pow_add, ← bitLength_le_iff]
    omega
  rw [nearestInteger_eq_self_iff, natAbs_nearestInteger]
  set c := roundShift n.natAbs (bitLength n.natAbs - 53)
  set dropped := bitLength n.natAbs - 53
  rcases eq_or_ne c 0 with hzero | hzero
  · rw [hzero, zero_mul]
    exact dvd_zero _
  · rw [bitLength_mul_pow hzero]
    rcases hbound.lt_or_eq with hlt | heq
    · have hlength := bitLength_le_iff.mpr hlt
      exact (pow_dvd_pow 2 (by omega)).trans (dvd_mul_left _ _)
    · -- a carry out of the leading place
      have hlength : bitLength (2 ^ 53) = 54 := by decide +kernel
      rw [heq, hlength, ← pow_add]
      exact pow_dvd_pow 2 (by omega)

lemma nearestInteger_ne_zero {n : ℤ} (h : n ≠ 0) : nearestInteger n ≠ 0 := by
  have hpos : 0 < bitLength n.natAbs := lt_bitLength_iff.mpr (Nat.pos_of_ne_zero (by simpa using h))
  have hdiv : 0 < n.natAbs / 2 ^ (bitLength n.natAbs - 53) :=
    Nat.div_pos (lt_bitLength_iff.mp (by omega)) (Nat.two_pow_pos _)
  have hround := hdiv.trans_le (div_le_roundShift n.natAbs (bitLength n.natAbs - 53))
  rw [← Int.natAbs_ne_zero, natAbs_nearestInteger]
  exact (Nat.mul_pos hround (Nat.two_pow_pos _)).ne'

/-- No multiple of the place is nearer than the one a number is rounded to. -/
lemma natAbs_sub_roundShift_le (n s : ℕ) (q : ℤ) :
    ((n : ℤ) - roundShift n s * 2 ^ s).natAbs ≤ ((n : ℤ) - q * 2 ^ s).natAbs := by
  have hpos : 0 < 2 ^ s := Nat.two_pow_pos s
  have hrest : n % 2 ^ s < 2 ^ s := Nat.mod_lt _ hpos
  have hsplit : n / 2 ^ s * 2 ^ s + n % 2 ^ s = n := Nat.div_add_mod' n (2 ^ s)
  have hq : q * 2 ^ s ≤ (n / 2 ^ s * 2 ^ s : ℕ) ∨
      ((n / 2 ^ s + 1) * 2 ^ s : ℕ) ≤ q * 2 ^ s := by
    push_cast
    refine (le_or_gt q (n / 2 ^ s)).imp (fun h => ?_) (fun h => ?_)
    · exact mul_le_mul_of_nonneg_right h (by positivity)
    · exact mul_le_mul_of_nonneg_right h (by positivity)
  have hround : (roundShift n s : ℤ) * 2 ^ s = (roundShift n s * 2 ^ s : ℕ) := by push_cast; rfl
  rw [hround, roundShift_eq]
  rw [add_mul, one_mul] at hq
  split_ifs with hbelow habove
  · omega
  · rw [add_mul, one_mul]
    omega
  · rcases Nat.mod_two_eq_zero_or_one (n / 2 ^ s) with hbit | hbit
    · rw [hbit, add_zero]
      omega
    · rw [hbit, add_mul, one_mul]
      omega

/-- No float among the integers is nearer than the nearest one. -/
lemma natAbs_sub_nearestInteger_le {k : ℤ} (hk : nearestInteger k = k) (n : ℤ) :
    (n - nearestInteger n).natAbs ≤ (n - k).natAbs := by
  rcases eq_or_ne n 0 with rfl | hn
  · simp [nearestInteger]
  -- on the side of the integer, where it is positive
  have hside (l : ℤ) : (n - l).natAbs = ((n.natAbs : ℤ) - n.sign * l).natAbs := by
    rcases hn.lt_or_gt with h | h
    · rw [Int.sign_eq_neg_one_of_neg h]
      omega
    · rw [Int.sign_eq_one_of_pos h]
      omega
  have hnear : n.sign * nearestInteger n =
      (roundShift n.natAbs (bitLength n.natAbs - 53) : ℤ) * 2 ^ (bitLength n.natAbs - 53) := by
    rw [nearestInteger, ← mul_assoc, ← Int.sign_mul, Int.sign_eq_one_of_pos (mul_self_pos.mpr hn)]
    push_cast
    ring
  have habs : (n.sign * k).natAbs = k.natAbs := by
    rw [Int.natAbs_mul, Int.natAbs_sign_of_ne_zero hn, one_mul]
  rw [hside, hside, hnear]
  rcases le_or_gt (bitLength n.natAbs) (bitLength k.natAbs) with hle | hlt
  · -- the other one is a multiple of the same place
    have hdvd : 2 ^ (bitLength n.natAbs - 53) ∣ n.sign * k := by
      have hplace := (pow_dvd_pow 2 (Nat.sub_le_sub_right hle 53)).trans
        (nearestInteger_eq_self_iff.mp hk)
      rw [← habs] at hplace
      exact_mod_cast Int.natCast_dvd.mpr hplace
    obtain ⟨q, hq⟩ := hdvd
    rw [hq, mul_comm _ q]
    exact natAbs_sub_roundShift_le _ _ q
  · rcases le_or_gt (bitLength n.natAbs) 53 with hsmall | hlarge
    · rw [Nat.sub_eq_zero_of_le hsmall]
      simp
    · -- the other one lies below the leading place, itself a multiple
      have hlead := natAbs_sub_roundShift_le n.natAbs (bitLength n.natAbs - 53) (2 ^ 52)
      have hbelow : k.natAbs < 2 ^ (bitLength n.natAbs - 1) := bitLength_le_iff.mp (by omega)
      have habove : 2 ^ (bitLength n.natAbs - 1) ≤ n.natAbs := lt_bitLength_iff.mp (by omega)
      have hpow : (2 : ℤ) ^ 52 * 2 ^ (bitLength n.natAbs - 53) =
          (2 ^ (bitLength n.natAbs - 1) : ℕ) := by
        rw [← pow_add]
        push_cast
        congr 1
        omega
      rw [hpow] at hlead
      omega

/-- An integer with more than 53 binary digits does not come nearer to zero. -/
lemma le_natAbs_nearestInteger {n : ℤ} (h : 2 ^ 53 ≤ n.natAbs) :
    2 ^ 53 ≤ (nearestInteger n).natAbs := by
  have hlength : 53 < bitLength n.natAbs := lt_bitLength_iff.mpr h
  have hleading : 2 ^ 52 ≤ n.natAbs / 2 ^ (bitLength n.natAbs - 53) := by
    rw [Nat.le_div_iff_mul_le (Nat.two_pow_pos _), ← pow_add, ← lt_bitLength_iff]
    omega
  rw [natAbs_nearestInteger]
  calc 2 ^ 53 = 2 ^ 52 * 2 ^ 1 := (pow_succ 2 52)
    _ ≤ _ := Nat.mul_le_mul (hleading.trans (div_le_roundShift _ _))
      (Nat.pow_le_pow_right two_pos (by omega))

/-! ### Integers that are floats -/

lemma fits_of_le {n : ℤ} (h : n.natAbs ≤ 2 ^ 53) : FitsFloat n ∧ nearestInteger n = n := by
  have hself := nearestInteger_of_le h
  refine ⟨?_, hself⟩
  rw [FitsFloat, hself]
  exact h.trans_lt (pow_lt_pow_right₀ one_lt_two (by norm_num))

/-- A whole number of units that are whole numbers is its own nearest float. -/
lemma fits_of_eq_mul {n : ℤ} {m s : ℕ} (hm : m < 2 ^ 53) (hs : s ≤ 971)
    (h : n.natAbs = m * 2 ^ s) : FitsFloat n ∧ nearestInteger n = n := by
  have hself : nearestInteger n = n := by
    rw [nearestInteger_eq_self_iff, h]
    rcases eq_or_ne m 0 with rfl | hzero
    · rw [zero_mul]
      exact dvd_zero _
    · have hlength := bitLength_le_iff.mpr hm
      rw [bitLength_mul_pow hzero]
      exact (pow_dvd_pow 2 (by omega)).mul_left m
  refine ⟨?_, hself⟩
  have hlt : m * 2 ^ s < 2 ^ (53 + s) := by
    rw [pow_add]
    exact Nat.mul_lt_mul_of_pos_right hm (Nat.two_pow_pos s)
  rw [FitsFloat, hself, h]
  exact hlt.trans_le (pow_le_pow_right₀ one_le_two (by omega))

/-! ### Conversion -/

/-- The places of an integer that its nearest float keeps. -/
lemma kept_ofInt (n : ℤ) :
    ((ofInt n).kept : ℚ) * 2 ^ (ofInt n).lastPlace = (nearestInteger n).natAbs := by
  have hlast : (ofInt n).lastPlace = max ((bitLength n.natAbs : ℤ) - 53) (-1074) := by
    simp [lastPlace, ofInt]
  rw [natAbs_nearestInteger]
  rcases le_or_gt (bitLength n.natAbs) 53 with h | h
  · rw [kept_mul_zpow (by rw [hlast]; simp only [ofInt]; omega), Nat.sub_eq_zero_of_le h]
    simp [ofInt]
  · have hdropped : (ofInt n).lastPlace = (bitLength n.natAbs - 53 : ℕ) := by omega
    have hkept : (ofInt n).kept = roundShift n.natAbs (bitLength n.natAbs - 53) := by
      rw [(ofInt n).kept_eq_roundShift (a := 0) (b := bitLength n.natAbs - 53)
        (by rw [hdropped]; simp [ofInt]), pow_zero, mul_one]
      rfl
    rw [hkept, hdropped, zpow_natCast]
    push_cast
    rfl

lemma sign_mul_nearestInteger (n : ℤ) :
    (if (ofInt n).negative then -1 else 1) * ((nearestInteger n).natAbs : ℚ) =
      nearestInteger n := by
  refine sign_mul_natAbs (fun hneg => ?_) (fun hpos => ?_)
  · rw [nearestInteger_eq_sign_mul, Int.sign_eq_neg_one_of_neg (of_decide_eq_true hneg)]
    omega
  · rw [nearestInteger_eq_sign_mul]
    have hn : 0 ≤ n := not_lt.mp fun h => hpos (decide_eq_true h)
    exact mul_nonneg (Int.sign_nonneg_iff.mpr hn) (Int.natCast_nonneg _)

lemma magnitude_ofInt_lt_iff (n : ℤ) : (ofInt n).magnitude < 0x7FF * 2 ^ 52 ↔ FitsFloat n := by
  rw [magnitude_lt_iff, kept_ofInt, FitsFloat, ← Nat.cast_lt (α := ℚ), Nat.cast_pow, zpow_ofNat,
    Nat.cast_ofNat]

namespace Number

/-- An integer whose nearest float is finite becomes that float. -/
lemma exists_floatOfInt {n : ℤ} (h : FitsFloat n) :
    ∃ x d, floatOfInt n = .ok x ∧ Binary.ofFloat? x = some d ∧ d.value = nearestInteger n := by
  have hrange := (magnitude_ofInt_lt_iff n).mpr h
  refine ⟨(ofInt n).toFloat, _, ?_, ofFloat?_toFloat hrange, ?_⟩
  · have hfinite := isFiniteBits_nearestBits hrange
    rw [floatOfInt]
    exact if_pos (by rwa [Binary.toFloat, toBits_ofBits hfinite])
  · rw [value_ofBits_nearestBits hrange, mul_assoc, kept_ofInt, sign_mul_nearestInteger]

/-- Any other integer is too large. -/
lemma floatOfInt_eq_error {n : ℤ} (h : ¬ FitsFloat n) : floatOfInt n = .error .intTooLarge := by
  have hrange := mt (magnitude_ofInt_lt_iff n).mp h
  rw [floatOfInt]
  exact if_neg (not_isFiniteBits_toFloat hrange)

end Number

end Sigil
