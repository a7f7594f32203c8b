/-
# Floats that are integers

Half of one added to a float that is an integer is rounded again: where floats are no finer than
whole numbers the half disappears, or turns an odd integer into the even one above it.  The
remainder of two such floats is always a float, and so it is exact.
-/
import Sigil.Proofs.NearestIntegers

namespace Sigil

open Decimal (Binary)
open Decimal.Binary

namespace Decimal.Binary

/-! ### Scaling -/

section

variable {negative : Bool} {m : ℕ} (hm : m ≠ 0) (e : ℤ) (j : ℕ)

include hm

lemma lastPlace_scale : lastPlace ⟨negative, m * 2 ^ j, e - j⟩ = lastPlace ⟨negative, m, e⟩ := by
  simp only [lastPlace, bitLength_mul_pow hm]
  omega

lemma kept_scale : kept ⟨negative, m * 2 ^ j, e - j⟩ = kept ⟨negative, m, e⟩ := by
  have hlast : lastPlace ⟨negative, m * 2 ^ j, e - j⟩ = lastPlace ⟨negative, m, e⟩ :=
    lastPlace_scale hm e j
  rw [kept_eq ⟨negative, m, e⟩, ← roundShift_mul_pow _ _ j]
  rw [kept_eq_roundShift (a := (e - lastPlace ⟨negative, m, e⟩).toNat)
    (b := (lastPlace ⟨negative, m, e⟩ - e).toNat + j) _ (by rw [hlast]; push_cast; omega)]
  rw [mul_right_comm]

lemma magnitude_scale : magnitude ⟨negative, m * 2 ^ j, e - j⟩ = magnitude ⟨negative, m, e⟩ := by
  rw [magnitude, kept_scale hm, lastPlace_scale hm]
  rfl

/-- The nearest float does not depend on the exponent at which an exact value is given. -/
lemma toFloat_scale : toFloat ⟨negative, m * 2 ^ j, e - j⟩ = toFloat ⟨negative, m, e⟩ := by
  rw [toFloat, nearestBits_eq, magnitude_scale hm]
  rfl

end

/-! ### Half of one more -/

/-- The exact value of one half. -/
def half : Binary := ⟨false, 2 ^ 52, -53⟩

lemma ofFloat?_half : ofFloat? 0.5 = some half := by decide +kernel

lemma value_half : half.value = 1 / 2 := by
  norm_num [value, signed, half]

/-- Half more than an integer. -/
def halfMore (k : ℤ) : Binary := ⟨decide (k < 0), (2 * k + 1).natAbs, -1⟩

lemma exactSum_half {d : Binary} {k : ℤ} (h : d.value = k) : ∃ j : ℕ, exactSum d half =
    ⟨(halfMore k).negative, (halfMore k).significand * 2 ^ j, (halfMore k).exponent - j⟩ := by
  obtain ⟨j, hj⟩ : ∃ j : ℕ, (exactSum d half).exponent = -1 - j :=
    ⟨(-1 - min d.exponent (-53)).toNat, by simp only [exactSum, half]; omega⟩
  have hvalue := value_exactSum d half
  have hsigned : (exactSum d half).signed = (2 * k + 1) * 2 ^ j := by
    rw [h, value_half, value, hj, zpow_sub₀ two_ne_zero, zpow_natCast, zpow_neg_one] at hvalue
    have hpos : (2 : ℚ) ^ j ≠ 0 := by positivity
    field_simp at hvalue
    have hcast : ((exactSum d half).signed : ℚ) = ((2 * k + 1) * 2 ^ j : ℤ) := by
      push_cast
      linarith
    exact_mod_cast hcast
  have heq : exactSum d half = ⟨decide ((exactSum d half).signed < 0),
      (exactSum d half).signed.natAbs, (exactSum d half).exponent⟩ := by
    have hself : (exactSum d half).signed = _ := signed_ofInt _
    rw [hself]
    rfl
  refine ⟨j, ?_⟩
  rw [heq, hsigned, hj, Int.natAbs_mul, Int.natAbs_pow]
  have hneg : (2 * k + 1) * 2 ^ j < 0 ↔ k < 0 := by
    rw [← zero_mul ((2 : ℤ) ^ j), mul_lt_mul_iff_left₀ (by positivity)]
    omega
  simp only [halfMore, hneg]
  rfl

variable {k : ℤ}

/-- Half more than a small integer is a float. -/
lemma kept_halfMore_of_lt (h : (2 * k + 1).natAbs < 2 ^ 53) :
    ((halfMore k).kept : ℚ) * 2 ^ (halfMore k).lastPlace = (2 * k + 1).natAbs / 2 := by
  have hlength := bitLength_le_iff.mpr h
  rw [kept_mul_zpow (by simp only [lastPlace, halfMore]; omega)]
  rw [halfMore, zpow_neg_one, div_eq_mul_inv]

lemma kept_halfMore_of_between (hlow : 2 ^ 53 ≤ (2 * k + 1).natAbs)
    (hhigh : (2 * k + 1).natAbs < 2 ^ 54) :
    ((halfMore k).kept : ℚ) * 2 ^ (halfMore k).lastPlace = (k + k % 2).natAbs := by
  have hlength : bitLength (2 * k + 1).natAbs = 54 :=
    le_antisymm (bitLength_le_iff.mpr hhigh) (lt_bitLength_iff.mpr hlow)
  have hlast : (halfMore k).lastPlace = 0 := by
    simp [lastPlace, halfMore, hlength]
  have hkept : (halfMore k).kept = roundShift (2 * k + 1).natAbs 1 := by
    rw [kept_eq_roundShift (a := 0) (b := 1) _ (by rw [hlast]; rfl), pow_zero, mul_one]
    rfl
  rw [hkept, hlast, zpow_zero, mul_one,
    roundShift_of_half (c := (2 * k + 1).natAbs / 2) (r := 1) (by omega) (by norm_num)]
  congr 1
  omega

/-- Half more than a large float is rounded back to it. -/
lemma kept_halfMore_of_le (hk : nearestInteger k = k) (h : 2 ^ 54 ≤ (2 * k + 1).natAbs) :
    ((halfMore k).kept : ℚ) * 2 ^ (halfMore k).lastPlace = k.natAbs := by
  have hlow : 54 < bitLength (2 * k + 1).natAbs := lt_bitLength_iff.mpr h
  have hhigh : bitLength (2 * k + 1).natAbs ≤ bitLength k.natAbs + 1 := by
    have hlt : k.natAbs < 2 ^ bitLength k.natAbs := bitLength_le_iff.mp le_rfl
    rw [bitLength_le_iff, pow_succ]
    omega
  obtain ⟨s, hs⟩ : ∃ s, bitLength (2 * k + 1).natAbs = s + 54 :=
    ⟨bitLength (2 * k + 1).natAbs - 54, by omega⟩
  have hlast : (halfMore k).lastPlace = s := by
    simp only [lastPlace, halfMore, hs]
    omega
  obtain ⟨c, hc⟩ : 2 ^ s ∣ k.natAbs :=
    (pow_dvd_pow 2 (by omega)).trans (nearestInteger_eq_self_iff.mp hk)
  have hdouble : 2 * k.natAbs = c * 2 ^ (s + 1) := by rw [hc]; ring
  have hone : 2 * 1 < 2 ^ (s + 1) :=
    lt_of_lt_of_le (by norm_num : 2 * 1 < 2 ^ 2) (Nat.pow_le_pow_right two_pos (by omega))
  have hround : roundShift (2 * k + 1).natAbs (s + 1) = c := by
    rcases le_or_gt 0 k with hpos | hneg
    · exact roundShift_of_below (r := 1) (by omega) hone
    · exact roundShift_of_above (r := 1) (by omega) hone
  have hkept : (halfMore k).kept = roundShift (2 * k + 1).natAbs (s + 1) := by
    rw [kept_eq_roundShift (a := 0) (b := s + 1) _ (by rw [hlast, halfMore]; push_cast; ring),
      pow_zero, mul_one]
    rfl
  rw [hkept, hround, hlast, zpow_natCast, hc]
  push_cast
  ring

/-- What half of one added to a float that is an integer is rounded down to: between `2 ^ 52` and
`2 ^ 53` there are no halves, so that an odd integer becomes the even one above it. -/
def halfUp (k : ℤ) : ℤ := if 2 ^ 52 < k.natAbs ∧ k.natAbs < 2 ^ 53 then k + k % 2 else k

/-- Adding a half and rounding down gives an integer back that is a float, unless it is an odd one
between `2 ^ 52` and `2 ^ 53`. -/
lemma halfUp_nearestInteger_eq_iff {n : ℤ} :
    halfUp (nearestInteger n) = n ↔ nearestInteger n = n ∧ (n.natAbs ≤ 2 ^ 52 ∨ 2 ∣ n) := by
  rcases le_or_gt n.natAbs (2 ^ 53) with hsmall | hlarge
  · -- up to here all integers are floats
    rw [nearestInteger_of_le hsmall, halfUp, eq_self, true_and]
    split <;> omega
  · -- beyond, floats are even, and half of one more is rounded back to them
    have hnear := le_natAbs_nearestInteger hlarge.le
    rw [halfUp, if_neg (by omega), iff_self_and, nearestInteger_eq_self_iff]
    intro hdvd
    have hlength : 53 < bitLength n.natAbs := lt_bitLength_iff.mpr hlarge.le
    exact .inr (Int.natCast_dvd.mpr ((dvd_pow_self 2 (by omega)).trans hdvd))

/-- The nearest float to half more than a float is in range, and is rounded down as described. -/
lemma floor_halfMore (hk : nearestInteger k = k) (hrange : k.natAbs < 2 ^ 1024) :
    (halfMore k).magnitude < 0x7FF * 2 ^ 52 ∧
      (ofBits (halfMore k).nearestBits).floor = halfUp k := by
  have hsign {n : ℤ} (hneg : k < 0 → n ≤ 0) (hpos : ¬ k < 0 → 0 ≤ n) :
      (if (halfMore k).negative then -1 else 1) * (n.natAbs : ℚ) = n :=
    sign_mul_natAbs (fun h => hneg (of_decide_eq_true h)) (fun h => hpos (mt decide_eq_true h))
  have hlarge : (2 : ℚ) ^ 55 ≤ 2 ^ (1024 : ℤ) := by
    rw [← zpow_natCast]
    exact zpow_le_zpow_right₀ one_le_two (by norm_num)
  rcases lt_or_ge (2 * k + 1).natAbs (2 ^ 53) with hsmall | hlow
  · have hbound : ((2 * k + 1).natAbs : ℚ) < 2 ^ 53 := by exact_mod_cast hsmall
    obtain ⟨hmagnitude, hvalue⟩ :=
      value_of_kept (kept_halfMore_of_lt hsmall) (lt_of_lt_of_le (by linarith) hlarge)
    refine ⟨hmagnitude, ?_⟩
    rw [floor_eq, hvalue, ← mul_div_assoc, hsign (by omega) (by omega), halfUp,
      if_neg (by omega), Int.floor_eq_iff]
    push_cast
    constructor <;> linarith
  · rcases lt_or_ge (2 * k + 1).natAbs (2 ^ 54) with hhigh | hhuge
    · have hbound : ((k + k % 2).natAbs : ℚ) < 2 ^ 55 := by
        exact_mod_cast (by omega : (k + k % 2).natAbs < 2 ^ 55)
      obtain ⟨hmagnitude, hvalue⟩ :=
        value_of_kept (kept_halfMore_of_between hlow hhigh) (hbound.trans_le hlarge)
      refine ⟨hmagnitude, ?_⟩
      rw [floor_eq, hvalue, hsign (by omega) (by omega), Int.floor_intCast, halfUp]
      split <;> omega
    · have hbound : (k.natAbs : ℚ) < 2 ^ (1024 : ℤ) := by
        rw [zpow_ofNat]
        exact_mod_cast hrange
      obtain ⟨hmagnitude, hvalue⟩ := value_of_kept (kept_halfMore_of_le hk hhuge) hbound
      refine ⟨hmagnitude, ?_⟩
      rw [floor_eq, hvalue, hsign (by omega) (by omega), Int.floor_intCast, halfUp,
        if_neg (by omega)]

/-- Half added to a float that is an integer other than zero. -/
lemma exists_ofFloat?_add_half {x : Float} {d : Binary} (hx : ofFloat? x = some d)
    (hd : d.value = k) (hzero : k ≠ 0) (hk : nearestInteger k = k) (hrange : k.natAbs < 2 ^ 1024) :
    ∃ d', ofFloat? (x + 0.5) = some d' ∧ d'.floor = halfUp k := by
  obtain ⟨hmagnitude, hfloor⟩ := floor_halfMore hk hrange
  have hmore : (halfMore k).significand ≠ 0 := by simp only [halfMore]; omega
  obtain ⟨j, hsum⟩ := exactSum_half hd
  have hsignificand : d.significand ≠ 0 := fun h => by
    rw [value_eq_mul, h] at hd
    refine hzero ?_
    simpa using hd.symm
  have hadd : x + 0.5 = (halfMore k).toFloat := by
    have hscaled : toFloat ⟨(halfMore k).negative, (halfMore k).significand * 2 ^ j,
        (halfMore k).exponent - j⟩ = (halfMore k).toFloat :=
      toFloat_scale hmore (halfMore k).exponent j
    rw [add_eq_toFloat hx ofFloat?_half hsignificand (by decide) ?_ ?_, hsum, hscaled]
    · rw [hsum]
      exact mul_ne_zero hmore (Nat.two_pow_pos j).ne'
    · rw [hsum, magnitude_scale hmore]
      exact hmagnitude
  exact ⟨_, by rw [hadd, ofFloat?_toFloat hmagnitude], hfloor⟩

/-! ### Remainders -/

lemma bounds_of_ofFloat? {x : Float} {d : Binary} (h : ofFloat? x = some d) :
    d.significand < 2 ^ 53 ∧ -1074 ≤ d.exponent ∧ d.exponent ≤ 971 := by
  simp only [ofFloat?, Option.ite_none_right_eq_some, Option.some.injEq] at h
  obtain ⟨hfinite, rfl⟩ := h
  rw [isFiniteBits_iff] at hfinite
  rw [ofBits_eq]
  split
  · exact ⟨(Nat.mod_lt _ (by norm_num)).trans (by norm_num), le_rfl, by norm_num⟩
  · simp only
    omega

/-- The remainder of two numbers of units is the number of units of the remainder. -/
lemma mod_eq_mul {a b p q : ℕ} {u : ℚ} (hu : u ≠ 0) (hq : q ≠ 0) (ha : (a : ℚ) = p * u)
    (hb : (b : ℚ) = q * u) : ((a % b : ℕ) : ℚ) = (p % q : ℕ) * u := by
  have hb0 : b ≠ 0 := by
    rw [← Nat.cast_ne_zero (R := ℚ), hb]
    exact mul_ne_zero (Nat.cast_ne_zero.mpr hq) hu
  have hcross : a * q = p * b := by
    have hcast : (a * q : ℚ) = p * b := by rw [ha, hb]; ring
    exact_mod_cast hcast
  have hdiv : a / b = p / q := by
    rw [← Nat.mul_div_mul_right a b (Nat.pos_of_ne_zero hq), hcross, mul_comm b q,
      Nat.mul_div_mul_right p q (Nat.pos_of_ne_zero hb0)]
  have hsplit : (b : ℚ) * (p / q : ℕ) + (a % b : ℕ) = a := by
    rw [← hdiv]
    exact_mod_cast Nat.div_add_mod a b
  have hsplit' : (q : ℚ) * (p / q : ℕ) + (p % q : ℕ) = p := by exact_mod_cast Nat.div_add_mod p q
  rw [ha, hb, ← hsplit'] at hsplit
  linarith

lemma natAbs_eq_mul {d : Binary} {k e : ℤ} (h : d.value = k) (he : e ≤ d.exponent) :
    (k.natAbs : ℚ) = (d.significand * 2 ^ (d.exponent - e).toNat : ℕ) * 2 ^ e := by
  have hsigned : d.signed.natAbs = d.significand := by
    unfold signed
    split <;> simp
  have hunit : (0 : ℚ) < 2 ^ e := zpow_pos two_pos e
  have hvalue := value_eq_of_le d he
  rw [h] at hvalue
  rw [Nat.cast_natAbs, Int.cast_abs, hvalue, abs_mul, abs_of_pos hunit,
    ← Int.cast_abs, ← Nat.cast_natAbs, Int.natAbs_mul, hsigned, Int.pow_eq, Int.natAbs_pow]
  rfl

variable {a b : Binary} {m n : ℤ}

/-- The remainder of two integral values is that of the integers. -/
lemma value_remainder (ha : a.value = m) (hb : b.value = n) (hn : n ≠ 0) :
    (a.remainder b).value = (m.tmod n : ℤ) := by
  have hunit : (2 : ℚ) ^ min a.exponent b.exponent ≠ 0 := (zpow_pos two_pos _).ne'
  have hm' := natAbs_eq_mul ha (min_le_left _ b.exponent)
  have hn' := natAbs_eq_mul hb (min_le_right a.exponent _)
  have hdivisor : b.significand * 2 ^ (b.exponent - min a.exponent b.exponent).toNat ≠ 0 :=
    fun h => by
      rw [h] at hn'
      simp [hn] at hn'
  have hmod := mod_eq_mul hunit hdivisor hm' hn'
  -- the remainder has the sign of the dividend
  have hneg (h : a.negative) : m.tmod n ≤ 0 := by
    have hm : m ≤ 0 := by
      have hle : a.value ≤ 0 := by
        rw [value_eq_mul, h, mul_assoc]
        simpa using (by positivity : (0 : ℚ) ≤ a.significand * 2 ^ a.exponent)
      rw [ha] at hle
      exact_mod_cast hle
    have := Int.tmod_nonneg n (neg_nonneg.mpr hm)
    rw [Int.neg_tmod] at this
    omega
  have hpos (h : ¬ a.negative) : 0 ≤ m.tmod n := by
    refine Int.tmod_nonneg n ?_
    have hle : 0 ≤ a.value := by
      rw [value_eq_mul, if_neg h, one_mul]
      positivity
    rw [ha] at hle
    exact_mod_cast hle
  rw [value_eq_mul, ← sign_mul_natAbs hneg hpos, Int.natAbs_tmod, hmod, mul_assoc]
  rfl

/-- A remainder is not longer than the shorter of its dividend and its divisor. -/
lemma significand_remainder_lt (ha : a.significand < 2 ^ 53) (hb : b.significand < 2 ^ 53)
    (hzero : b.significand ≠ 0) : (a.remainder b).significand < 2 ^ 53 := by
  simp only [remainder, Nat.pow_eq]
  rcases le_total b.exponent a.exponent with h | h
  · have hself : (b.exponent - min a.exponent b.exponent).toNat = 0 := by omega
    rw [hself, pow_zero, mul_one]
    exact (Nat.mod_lt _ (Nat.pos_of_ne_zero hzero)).trans hb
  · have hself : (a.exponent - min a.exponent b.exponent).toNat = 0 := by omega
    rw [hself, pow_zero, mul_one]
    exact (Nat.mod_le _ _).trans_lt ha

end Decimal.Binary

/-! ### Integers that are values -/

/-- The integer is the value of a float. -/
def IsFloat (n : ℤ) : Prop := ∃ x d, ofFloat? x = some d ∧ d.value = n

/-- The float is as near to the integer as any other one that is an integer. -/
structure IsNearestFloat (n k : ℤ) : Prop where
  isFloat : IsFloat k
  nearest : ∀ l, IsFloat l → (n - k).natAbs ≤ (n - l).natAbs

section

variable {n : ℤ}

/-- The values of floats are the integers that are in range and nearest to themselves. -/
lemma isFloat_iff : IsFloat n ↔ FitsFloat n ∧ nearestInteger n = n := by
  constructor
  · rintro ⟨x, d, hx, hd⟩
    obtain ⟨hsignificand, -, hexponent⟩ := bounds_of_ofFloat? hx
    rcases le_or_gt 0 d.exponent with hwhole | hfraction
    · have habs := natAbs_eq_mul hd hwhole
      rw [sub_zero, zpow_zero, mul_one, Nat.cast_inj] at habs
      exact fits_of_eq_mul hsignificand (by omega) habs
    · have habs := natAbs_eq_mul hd le_rfl
      rw [sub_self, Int.toNat_zero, pow_zero, mul_one] at habs
      have hle : (n.natAbs : ℚ) ≤ d.significand := by
        rw [habs]
        exact mul_le_of_le_one_right (Nat.cast_nonneg _)
          (zpow_le_one_of_nonpos₀ one_le_two hfraction.le)
      exact fits_of_le ((Nat.cast_le.mp hle).trans hsignificand.le)
  · rintro ⟨hfits, hself⟩
    obtain ⟨x, d, -, hx, hd⟩ := Number.exists_floatOfInt hfits
    rw [hself] at hd
    exact ⟨x, d, hx, hd⟩

/-- Integers of up to 53 binary digits are floats. -/
lemma isFloat_of_le (h : n.natAbs ≤ 2 ^ 53) : IsFloat n := isFloat_iff.mpr (fits_of_le h)

lemma isNearestFloat_nearestInteger (h : FitsFloat n) : IsNearestFloat n (nearestInteger n) where
  isFloat := by
    rw [isFloat_iff, FitsFloat, nearestInteger_nearestInteger]
    exact ⟨h, rfl⟩
  nearest _ hl := natAbs_sub_nearestInteger_le (isFloat_iff.mp hl).2 n

end

namespace Number

/-- The remainder of floats that are integers is the float that is the remainder of the integers. -/
lemma exists_floatRemainder {x y : Float} {a b : Binary} {m n : ℤ} (hx : ofFloat? x = some a)
    (hy : ofFloat? y = some b) (ha : a.value = m) (hb : b.value = n) (hn : n ≠ 0) :
    ∃ z d, floatRemainder x y = .ok z ∧ ofFloat? z = some d ∧ d.value = (m.tmod n : ℤ) := by
  have hzero : b.significand ≠ 0 := fun h => by
    rw [value_eq_mul, h] at hb
    refine hn ?_
    simpa using hb.symm
  obtain ⟨ha', halow, hahigh⟩ := bounds_of_ofFloat? hx
  obtain ⟨hb', hblow, hbhigh⟩ := bounds_of_ofFloat? hy
  have hexponent : (a.remainder b).exponent = min a.exponent b.exponent := rfl
  obtain ⟨d, hd, hvalue⟩ := exists_ofFloat?_toFloat (significand_remainder_lt ha' hb' hzero)
    (by omega) (by omega)
  refine ⟨_, d, ?_, hd, by rw [hvalue, value_remainder ha hb hn]⟩
  rw [floatRemainder, hx, hy]
  exact if_neg (by simpa using hzero)

end Number

end Sigil
