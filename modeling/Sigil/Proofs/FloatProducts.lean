/-
# Products of floats

A product of floats is rounded once, like a sum, and so the float that comes out of a few sums and
products of numbers that are not negative is known by its value: a rational number, rounded after
each step.
-/
import Sigil.Proofs.IntegralFloats
import Sigil.Proofs.NearestValues

namespace Sigil.Decimal.Binary

open Float.Model (UnpackedFloat Format)
open Float.Model.UnpackedFloat

/-! ### Zero -/

section

variable {x y : Float} {a b : Binary}

lemma unpack_eq_zero (hx : ofFloat? x = some a) (ha : a.significand = 0) :
    x.toModel.unpack = .zero (sign a.negative) := by
  simp only [ofFloat?, Option.ite_none_right_eq_some, Option.some.injEq] at hx
  obtain ⟨hfinite, rfl⟩ := hx
  have hbits := ofBits_eq x.toBits
  have hfield : x.toBits.toNat / 2 ^ 52 % 2 ^ 11 = 0 := by
    by_contra h
    rw [hbits, if_neg h] at ha
    simp at ha
  rw [if_pos hfield] at hbits
  have hexponent : @unpackExponent .binary64 x.toBits.toBitVec = 0#11 :=
    BitVec.eq_of_toNat_eq ((toNat_unpackExponent x.toBits.toBitVec).trans hfield)
  have hmantissa : @unpackMantissa .binary64 x.toBits.toBitVec = 0#52 := by
    refine BitVec.eq_of_toNat_eq ((toNat_unpackMantissa x.toBits.toBitVec).trans ?_)
    rw [hbits] at ha
    exact ha
  have hsign := ofBitVec_unpackSign x.toBits.toBitVec
  rw [UInt64.toNat_toBitVec] at hsign
  change unpack .binary64 x.toBits.toBitVec = _
  unfold unpack
  simp only
  rw [if_neg (unpackExponent_ne hfinite), if_pos hexponent, dif_pos hmantissa, hsign, hbits]

lemma pack_unpack_eq (hx : ofFloat? x = some a) :
    pack .binary64 x.toModel.unpack = x.toBits.toBitVec := by
  simp only [ofFloat?, Option.ite_none_right_eq_some, Option.some.injEq] at hx
  have hnan : @isNaNBits .binary64 x.toBits.toBitVec = false :=
    decide_eq_false fun hnan => unpackExponent_ne hx.1 hnan.1
  change pack .binary64 (unpack .binary64 x.toBits.toBitVec) = _
  rw [pack_unpack, hnan]
  rfl

/-- The sum of a zero and a float is that float. -/
lemma zero_add_eq (hx : ofFloat? x = some a) (hy : ofFloat? y = some b) (ha : a.significand = 0)
    (hneg : a.negative = false) (hneg' : b.negative = false) : x + y = y := by
  have hadd : UnpackedFloat.add .binary64 x.toModel.unpack y.toModel.unpack = y.toModel.unpack := by
    rw [unpack_eq_zero hx ha, hneg]
    by_cases hb : b.significand = 0
    · rw [unpack_eq_zero hy hb, hneg']
      rfl
    · rw [unpack_eq hy hb]
      rfl
  rw [← Float.toBits_inj, ← UInt64.toBitVec_inj, ← pack_unpack_eq hy, ← hadd]
  rfl

/-- The sum of a float other than zero and a zero is that float. -/
lemma add_zero_eq (hx : ofFloat? x = some a) (hy : ofFloat? y = some b) (ha : a.significand ≠ 0)
    (hb : b.significand = 0) : x + y = x := by
  have hadd : UnpackedFloat.add .binary64 x.toModel.unpack y.toModel.unpack = x.toModel.unpack := by
    rw [unpack_eq_zero hy hb, unpack_eq hx ha]
    rfl
  rw [← Float.toBits_inj, ← UInt64.toBitVec_inj, ← pack_unpack_eq hx, ← hadd]
  rfl

/-! ### Products -/

/-- The exact product of two numbers that are not negative. -/
def exactProduct (a b : Binary) : Binary :=
  ⟨false, a.significand * b.significand, a.exponent + b.exponent⟩

/-- The product of two floats that are positive is the float nearest to their exact product, if it
is in range and no part of its last place is missing. -/
lemma mul_eq_toFloat (hx : ofFloat? x = some a) (hy : ofFloat? y = some b)
    (ha : a.significand ≠ 0) (hb : b.significand ≠ 0) (hneg : a.negative = false)
    (hneg' : b.negative = false) (hlast : a.exponent + b.exponent ≤ (exactProduct a b).lastPlace)
    (hrange : (exactProduct a b).magnitude < 0x7FF * 2 ^ 52) :
    x * y = (exactProduct a b).toFloat := by
  have hproduct : (exactProduct a b).significand ≠ 0 := mul_ne_zero ha hb
  have hmul : UnpackedFloat.mul .binary64 x.toModel.unpack y.toModel.unpack =
      UnpackedFloat.round .binary64 (sign (exactProduct a b).negative)
        (exactProduct a b).significand (exactProduct a b).exponent := by
    have hlowered : ((exactProduct a b).exponent - (exactProduct a b).lastPlace).toNat = 0 :=
      Int.toNat_eq_zero.mpr (by simpa [exactProduct] using hlast)
    rw [unpack_eq hx ha, unpack_eq hy hb, hneg, hneg', UnpackedFloat.round,
      targetExponent_eq (exactProduct a b).negative hproduct, decreaseExponent]
    simp only [hlowered, Nat.shiftLeft_zero, Nat.cast_zero, sub_zero]
    rfl
  rw [← Float.toBits_inj, toFloat, toBits_ofBits (isFiniteBits_nearestBits hrange),
    ← UInt64.toNat_inj, ← toNat_pack_round hproduct hrange, ← hmul]
  rfl

end

/-! ### Values of floats -/

/-- The float is the rational number, which is not negative; zero is the one without a sign. -/
def HasValue (x : Float) (q : ℚ) : Prop :=
  ∃ d, ofFloat? x = some d ∧ d.negative = false ∧ d.value = q

section

variable {x y : Float} {p q : ℚ} {d : Binary}

lemma signed_nonneg (h : d.negative = false) : 0 ≤ d.signed := by
  rw [signed, h]
  exact Int.natCast_nonneg _

lemma value_of_negative_eq_false (h : d.negative = false) :
    d.value = d.significand * 2 ^ d.exponent := by
  rw [value_eq_mul, h, if_neg Bool.false_ne_true, one_mul]

lemma HasValue.nonneg (h : HasValue x q) : 0 ≤ q := by
  obtain ⟨d, -, hneg, rfl⟩ := h
  rw [value_of_negative_eq_false hneg]
  positivity

/-- The float nearest to an exact value in range. -/
lemma hasValue_toFloat (hneg : d.negative = false) (hvalue : d.value = q)
    (hrange : nearest q < 2 ^ (1024 : ℤ)) :
    d.magnitude < 0x7FF * 2 ^ 52 ∧ HasValue d.toFloat (nearest q) := by
  have hkept : (d.kept : ℚ) * 2 ^ d.lastPlace = nearest q := by
    rw [kept_mul_zpow_eq_nearest, ← value_of_negative_eq_false hneg, hvalue]
  obtain ⟨hmagnitude, hnear⟩ := value_of_kept hkept hrange
  refine ⟨hmagnitude, _, ofFloat?_toFloat hmagnitude, ?_, ?_⟩
  · have hsign := (fields_nearestBits hmagnitude).2.2
    rw [ofBits_eq]
    split
    · exact hsign.trans hneg
    · exact hsign.trans hneg
  · rw [hnear, hneg, if_neg Bool.false_ne_true, one_mul]

/-- Numbers of at most 53 binary digits are not changed by rounding. -/
lemma nearest_mul_zpow {m : ℕ} {e : ℤ} (hm : m < 2 ^ 53) (he : -1074 ≤ e) :
    nearest (m * 2 ^ e) = m * 2 ^ e := by
  have hlength := bitLength_le_iff.mpr hm
  have hlast : lastPlace ⟨false, m, e⟩ ≤ e := by
    unfold lastPlace
    dsimp only
    omega
  exact (kept_mul_zpow_eq_nearest ⟨false, m, e⟩).symm.trans (kept_mul_zpow hlast)

lemma nearest_natCast {n : ℕ} (hn : n < 2 ^ 53) : nearest n = n := by
  have hscaled := nearest_mul_zpow hn (by norm_num : -1074 ≤ (0 : ℤ))
  rwa [zpow_zero, mul_one] at hscaled

/-- Floats are not changed by rounding. -/
lemma HasValue.nearest_eq (h : HasValue x q) : nearest q = q := by
  obtain ⟨d, hd, hneg, rfl⟩ := h
  obtain ⟨hsignificand, hlow, -⟩ := bounds_of_ofFloat? hd
  rw [value_of_negative_eq_false hneg, nearest_mul_zpow hsignificand hlow]

/-- Numbers of 64 binary digits are far from the end of the range. -/
lemma lt_range (h : q ≤ 2 ^ 64) : q < 2 ^ (1024 : ℤ) := by
  refine h.trans_lt ?_
  rw [← zpow_natCast]
  exact zpow_lt_zpow_right₀ one_lt_two (by norm_num)

/-- A natural number that has no more digits than a float keeps. -/
lemma hasValue_ofInt {n : ℕ} (hn : n < 2 ^ 53) : HasValue (ofInt n).toFloat n := by
  have hneg : (ofInt n).negative = false := decide_eq_false (not_lt.mpr (Int.natCast_nonneg n))
  have hvalue : (ofInt n).value = n := by rw [value_ofInt, Int.cast_natCast]
  have hn' : (n : ℚ) < 2 ^ 53 := by exact_mod_cast hn
  have hrange : nearest n < 2 ^ (1024 : ℤ) := by
    rw [nearest_natCast hn]
    exact lt_range (hn'.le.trans (by norm_num))
  have hfloat := (hasValue_toFloat hneg hvalue hrange).2
  rwa [nearest_natCast hn] at hfloat

/-- A quotient of natural numbers is rounded once. -/
lemma hasValue_ofQuotient {m n : ℕ} (hn : n ≠ 0) (hrange : nearest (m / n) < 2 ^ (1024 : ℤ)) :
    HasValue (ofQuotient false m n).toFloat (nearest (m / n)) := by
  have hneg : (ofQuotient false m n).negative = false := by rw [ofQuotient_eq]
  have hnear := nearest_ofQuotient false m hn
  rw [← value_of_negative_eq_false hneg] at hnear
  rw [← hnear] at hrange ⊢
  exact (hasValue_toFloat hneg rfl hrange).2

lemma significand_eq_zero_iff (h : d.negative = false) : d.significand = 0 ↔ d.value = 0 := by
  have hunit : (2 : ℚ) ^ d.exponent ≠ 0 := (zpow_pos two_pos _).ne'
  rw [value_of_negative_eq_false h, mul_eq_zero_iff_right hunit, Nat.cast_eq_zero]

/-- A sum is rounded once. -/
lemma HasValue.add (hx : HasValue x p) (hy : HasValue y q)
    (hrange : nearest (p + q) < 2 ^ (1024 : ℤ)) : HasValue (x + y) (nearest (p + q)) := by
  have hp := hx.nonneg
  have hq := hy.nonneg
  have hself := hx.nearest_eq
  have hself' := hy.nearest_eq
  obtain ⟨a, ha, haneg, rfl⟩ := hx
  obtain ⟨b, hb, hbneg, rfl⟩ := hy
  -- nothing is rounded where a zero is added, but the other number is a float already
  by_cases hazero : a.significand = 0
  · rw [zero_add_eq ha hb hazero haneg hbneg, (significand_eq_zero_iff haneg).mp hazero, zero_add,
      hself']
    exact ⟨b, hb, hbneg, rfl⟩
  by_cases hbzero : b.significand = 0
  · rw [add_zero_eq ha hb hazero hbzero, (significand_eq_zero_iff hbneg).mp hbzero, add_zero,
      hself]
    exact ⟨a, ha, haneg, rfl⟩
  have hsum : (exactSum a b).negative = false := by
    have hscaled {d : Binary} (h : d.negative = false) (k : ℕ) : 0 ≤ d.signed * 2 ^ k :=
      mul_nonneg (signed_nonneg h) (by positivity)
    exact decide_eq_false (not_lt.mpr (add_nonneg (hscaled haneg _) (hscaled hbneg _)))
  obtain ⟨hmagnitude, hvalue⟩ := hasValue_toFloat hsum (value_exactSum a b) hrange
  have hsignificand : (exactSum a b).significand ≠ 0 := by
    rw [Ne, significand_eq_zero_iff hsum, value_exactSum]
    have hpos : 0 < a.value :=
      hp.lt_of_ne fun h => hazero ((significand_eq_zero_iff haneg).mpr h.symm)
    exact (add_pos_of_pos_of_nonneg hpos hq).ne'
  rw [add_eq_toFloat ha hb hazero hbzero hsignificand hmagnitude]
  exact hvalue

/-- The exact value of one thousand. -/
def thousand : Binary := ⟨false, 1000 * 2 ^ 43, -43⟩

lemma ofFloat?_thousand : ofFloat? 1000 = some thousand := by decide +kernel

lemma value_thousand : thousand.value = 1000 := by
  norm_num [value, signed, thousand]

/-- A product is rounded once. -/
lemma HasValue.mul_thousand (hx : HasValue x q) (hrange : nearest (1000 * q) < 2 ^ (1024 : ℤ)) :
    HasValue (x * 1000) (nearest (1000 * q)) := by
  obtain ⟨a, ha, hneg, rfl⟩ := hx
  have hb : thousand.significand ≠ 0 := by norm_num [thousand]
  by_cases hzero : a.significand = 0
  · -- nothing is rounded either where a zero is multiplied
    have hmul : UnpackedFloat.mul .binary64 x.toModel.unpack (1000 : Float).toModel.unpack =
        .zero .positive := by
      rw [unpack_eq_zero ha hzero, hneg, unpack_eq ofFloat?_thousand hb]
      rfl
    have hproduct : x * 1000 = 0 := by
      rw [← Float.toBits_inj, ← UInt64.toBitVec_inj]
      change pack .binary64 (UnpackedFloat.mul .binary64 _ _) = _
      rw [hmul]
      decide +kernel
    rw [hproduct, (significand_eq_zero_iff hneg).mp hzero, mul_zero, nearest_zero]
    exact ⟨⟨false, 0, -1074⟩, by decide +kernel, rfl, by simp [value, signed]⟩
  have hvalue : (exactProduct a thousand).value = 1000 * a.value := by
    rw [← value_thousand, value_of_negative_eq_false rfl, value_of_negative_eq_false rfl,
      value_of_negative_eq_false hneg, exactProduct, zpow_add₀ two_ne_zero]
    push_cast
    ring
  have hlast : a.exponent + thousand.exponent ≤ (exactProduct a thousand).lastPlace := by
    -- the product has at least as many digits as the second factor
    have hlength : 52 < bitLength (a.significand * thousand.significand) := by
      have hle := Nat.le_mul_of_pos_left thousand.significand (Nat.pos_of_ne_zero hzero)
      refine lt_bitLength_iff.mpr (le_trans ?_ hle)
      norm_num [thousand]
    simp only [lastPlace, exactProduct]
    omega
  obtain ⟨hmagnitude, hnear⟩ := hasValue_toFloat (d := exactProduct a thousand) rfl hvalue hrange
  rw [mul_eq_toFloat ha ofFloat?_thousand hzero hb hneg rfl hlast hmagnitude]
  exact hnear

end

end Sigil.Decimal.Binary
