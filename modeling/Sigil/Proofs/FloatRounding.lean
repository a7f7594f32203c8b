/-
# Rounding to floats

The float nearest to an exact value keeps its leading places: those above a last place that lies at
most 53 binary places below the leading one, and never below that of the smallest floats.  Its exact
value is what is kept, in units of the last place.
-/
import Sigil.Proofs.NumberOrder

namespace Sigil.Decimal.Binary

/-! ### Binary digits -/

lemma bitLength_eq_size (n : ℕ) : bitLength n = n.size := by
  rcases Nat.eq_zero_or_pos n with rfl | h
  · simp [bitLength]
  · simp only [bitLength, beq_iff_eq, h.ne', if_false]
    refine le_antisymm ?_ (Nat.size_le.mpr Nat.lt_log2_self)
    exact Nat.lt_size.mpr (Nat.log2_self_le h.ne')

lemma bitLength_le_iff {n k : ℕ} : bitLength n ≤ k ↔ n < 2 ^ k := by
  rw [bitLength_eq_size, Nat.size_le]

lemma lt_bitLength_iff {n k : ℕ} : k < bitLength n ↔ 2 ^ k ≤ n := by
  rw [bitLength_eq_size, Nat.lt_size]

lemma bitLength_mul_pow {n : ℕ} (h : n ≠ 0) (k : ℕ) : bitLength (n * 2 ^ k) = bitLength n + k := by
  rw [bitLength_eq_size, bitLength_eq_size, ← Nat.shiftLeft_eq, Nat.size_shiftLeft h]

/-! ### Rounding to a place -/

section

variable (n s : ℕ)

lemma roundShift_eq : roundShift n s =
    if 2 * (n % 2 ^ s) < 2 ^ s then n / 2 ^ s
    else if 2 ^ s < 2 * (n % 2 ^ s) then n / 2 ^ s + 1
    else n / 2 ^ s + n / 2 ^ s % 2 := by
  simp only [roundShift, Nat.pow_eq, beq_iff_eq]
  rcases lt_trichotomy (2 * (n % 2 ^ s)) (2 ^ s) with h | h | h
  · rw [compare_lt_iff_lt.mpr h, if_pos h]
  · rw [compare_eq_iff_eq.mpr h, h, if_neg (lt_irrefl _), if_neg (lt_irrefl _)]
    simp only
    split <;> omega
  · rw [compare_gt_iff_gt.mpr h, if_neg h.not_gt, if_pos h]

@[simp]
lemma roundShift_zero : roundShift n 0 = n := by
  simp [roundShift_eq, Nat.mod_one]

lemma div_le_roundShift : n / 2 ^ s ≤ roundShift n s := by
  rw [roundShift_eq]
  split_ifs <;> omega

lemma roundShift_le : roundShift n s ≤ n / 2 ^ s + 1 := by
  rw [roundShift_eq]
  split_ifs <;> omega

/-- Only the quotient matters. -/
lemma roundShift_mul_pow (k : ℕ) : roundShift (n * 2 ^ k) (s + k) = roundShift n s := by
  have hpos : 0 < 2 ^ k := Nat.two_pow_pos k
  simp only [roundShift_eq, pow_add, Nat.mul_mod_mul_right, Nat.mul_div_mul_right _ _ hpos,
    ← mul_assoc, Nat.mul_lt_mul_right hpos]

variable {n s} {c r : ℕ}

/-- A number less than half a place above a multiple of the place is rounded to it. -/
lemma roundShift_of_below (h : n = c * 2 ^ s + r) (hr : 2 * r < 2 ^ s) : roundShift n s = c := by
  obtain ⟨hdiv, hmod⟩ : n / 2 ^ s = c ∧ n % 2 ^ s = r :=
    (Nat.div_mod_unique (Nat.two_pow_pos s)).mpr ⟨by rw [h]; ring, by omega⟩
  rw [roundShift_eq, hdiv, hmod, if_pos hr]

/-- A number less than half a place below a multiple of the place is rounded to it. -/
lemma roundShift_of_above (h : n + r = c * 2 ^ s) (hr : 2 * r < 2 ^ s) : roundShift n s = c := by
  rcases Nat.eq_zero_or_pos r with rfl | hpos
  · exact roundShift_of_below (r := 0) (by omega) (Nat.two_pow_pos s)
  · have hc : c ≠ 0 := by rintro rfl; omega
    obtain ⟨hdiv, hmod⟩ : n / 2 ^ s = c - 1 ∧ n % 2 ^ s = 2 ^ s - r := by
      refine (Nat.div_mod_unique (Nat.two_pow_pos s)).mpr ⟨?_, by omega⟩
      have hsplit : c * 2 ^ s = 2 ^ s * (c - 1) + 2 ^ s := by
        rw [← Nat.mul_succ, Nat.succ_eq_add_one, Nat.sub_add_cancel (Nat.one_le_iff_ne_zero.mpr hc),
          mul_comm]
      omega
    rw [roundShift_eq, hdiv, hmod, if_neg (by omega), if_pos (by omega)]
    omega

/-- Of the two multiples that are equally near the even one is taken. -/
lemma roundShift_of_half (h : n = c * 2 ^ s + r) (hr : 2 * r = 2 ^ s) :
    roundShift n s = c + c % 2 := by
  obtain ⟨hdiv, hmod⟩ : n / 2 ^ s = c ∧ n % 2 ^ s = r :=
    (Nat.div_mod_unique (Nat.two_pow_pos s)).mpr
      ⟨by rw [h]; ring, by have := Nat.two_pow_pos s; omega⟩
  rw [roundShift_eq, hdiv, hmod, if_neg (by omega), if_neg (by omega)]

end

/-! ### What is kept -/

/-- The exponent of the last place that is kept. -/
def lastPlace (d : Binary) : ℤ := max (d.exponent + bitLength d.significand - 53) (-1074)

/-- The places that are kept. -/
def kept (d : Binary) : ℕ :=
  if d.exponent ≥ d.lastPlace then d.significand * Nat.pow 2 (d.exponent - d.lastPlace).toNat
  else roundShift d.significand (d.lastPlace - d.exponent).toNat

/-- The bits of the nearest float without those of the sign. -/
def magnitude (d : Binary) : ℕ :=
  if d.kept < Nat.pow 2 52 then d.kept else (d.lastPlace + 1074).toNat * Nat.pow 2 52 + d.kept

lemma nearestBits_eq (d : Binary) : d.nearestBits =
    UInt64.ofNat ((if d.negative then Nat.pow 2 63 else 0) +
      min d.magnitude (0x7FF * Nat.pow 2 52)) := rfl

variable (d : Binary)

lemma magnitude_eq : d.magnitude =
    if d.kept < 2 ^ 52 then d.kept else (d.lastPlace + 1074).toNat * 2 ^ 52 + d.kept := rfl

/-- However the significand is scaled, the same places are kept. -/
lemma kept_eq_roundShift {a b : ℕ} (h : (a : ℤ) - b = d.exponent - d.lastPlace) :
    d.kept = roundShift (d.significand * 2 ^ a) b := by
  unfold kept
  split
  · have ha : a = (d.exponent - d.lastPlace).toNat + b := by omega
    have hround := roundShift_mul_pow (d.significand * 2 ^ (d.exponent - d.lastPlace).toNat) 0 b
    rw [zero_add, roundShift_zero] at hround
    rw [ha, pow_add, ← mul_assoc, hround, Nat.pow_eq]
  · have hb : b = (d.lastPlace - d.exponent).toNat + a := by omega
    rw [hb, roundShift_mul_pow]

lemma neg_1074_le_lastPlace : -1074 ≤ d.lastPlace := le_max_right _ _

lemma lastPlace_of_lt (h : -1074 < d.lastPlace) :
    d.lastPlace = d.exponent + bitLength d.significand - 53 := by
  unfold lastPlace at h ⊢
  omega

lemma kept_eq : d.kept = roundShift (d.significand * 2 ^ (d.exponent - d.lastPlace).toNat)
    (d.lastPlace - d.exponent).toNat :=
  d.kept_eq_roundShift (by omega)

lemma kept_of_significand_eq_zero (h : d.significand = 0) : d.kept = 0 := by
  rw [kept_eq, h, zero_mul, roundShift_of_below (c := 0) (r := 0) (by simp) (Nat.two_pow_pos _)]

lemma kept_le : d.kept ≤ 2 ^ 53 := by
  rcases eq_or_ne d.significand 0 with h | h
  · rw [d.kept_of_significand_eq_zero h]
    exact Nat.zero_le _
  · have hlast : d.exponent + bitLength d.significand - 53 ≤ d.lastPlace := le_max_left _ _
    rw [kept_eq]
    refine (roundShift_le _ _).trans (Nat.div_lt_of_lt_mul ?_)
    rw [← pow_add, ← bitLength_le_iff, bitLength_mul_pow h]
    omega

/-- A last place above that of the smallest floats is 52 places below the leading one. -/
lemma le_kept (h : d.significand ≠ 0) (hlast : -1074 < d.lastPlace) : 2 ^ 52 ≤ d.kept := by
  have hlast := d.lastPlace_of_lt hlast
  rw [kept_eq]
  refine le_trans ?_ (div_le_roundShift _ _)
  rw [Nat.le_div_iff_mul_le (Nat.two_pow_pos _), ← pow_add, ← lt_bitLength_iff, bitLength_mul_pow h]
  omega

/-- Fewer than 53 places are kept only at the last place of the smallest floats. -/
lemma lastPlace_of_kept_lt (h : d.significand ≠ 0) (hkept : d.kept < 2 ^ 52) :
    d.lastPlace = -1074 :=
  le_antisymm (not_lt.mp (mt (d.le_kept h) (not_le.mpr hkept))) d.neg_1074_le_lastPlace

/-! ### Bits -/

lemma magnitude_lt_two_pow : min d.magnitude (0x7FF * Nat.pow 2 52) < 2 ^ 63 :=
  lt_of_le_of_lt (min_le_right _ _) (by decide)

lemma toNat_nearestBits : d.nearestBits.toNat =
    (if d.negative then 2 ^ 63 else 0) + min d.magnitude (0x7FF * 2 ^ 52) := by
  have hlt := d.magnitude_lt_two_pow
  rw [nearestBits_eq, UInt64.toNat_ofNat']
  simp only [Nat.pow_eq] at hlt ⊢
  refine Nat.mod_eq_of_lt ?_
  split <;> omega

lemma toNat_field (b : UInt64) : ((b >>> 52) &&& 0x7FF).toNat = b.toNat / 2 ^ 52 % 2 ^ 11 := by
  rw [UInt64.toNat_and, UInt64.toNat_shiftRight]
  change b.toNat >>> 52 &&& 2 ^ 11 - 1 = _
  rw [Nat.and_two_pow_sub_one_eq_mod, Nat.shiftRight_eq_div_pow]

lemma toNat_fraction (b : UInt64) : (b &&& 0xFFFFFFFFFFFFF).toNat = b.toNat % 2 ^ 52 := by
  rw [UInt64.toNat_and]
  exact Nat.and_two_pow_sub_one_eq_mod _ 52

lemma isFiniteBits_iff {b : UInt64} : isFiniteBits b ↔ b.toNat / 2 ^ 52 % 2 ^ 11 ≠ 0x7FF := by
  rw [isFiniteBits, bne_iff_ne, Ne, ← UInt64.toNat_inj, toNat_field]
  rfl

/-- The exact value of a float, read off the number that its bits make. -/
lemma ofBits_eq (b : UInt64) : ofBits b =
    if b.toNat / 2 ^ 52 % 2 ^ 11 = 0 then ⟨decide (2 ^ 63 ≤ b.toNat), b.toNat % 2 ^ 52, -1074⟩
    else ⟨decide (2 ^ 63 ≤ b.toNat), 2 ^ 52 + b.toNat % 2 ^ 52,
      (b.toNat / 2 ^ 52 % 2 ^ 11 : ℕ) - 1075⟩ := by
  have hsign : (b >>> 63 == 1) = decide (2 ^ 63 ≤ b.toNat) := by
    have hlt := b.toNat_lt
    rw [Bool.eq_iff_iff, beq_iff_eq, decide_eq_true_eq, ← UInt64.toNat_inj, UInt64.toNat_shiftRight]
    change b.toNat >>> 63 = 1 ↔ _
    rw [Nat.shiftRight_eq_div_pow]
    omega
  simp only [ofBits, hsign, toNat_field, toNat_fraction, beq_iff_eq, Nat.pow_eq]

lemma value_eq_mul (d : Binary) :
    d.value = (if d.negative then -1 else 1) * d.significand * 2 ^ d.exponent := by
  rw [value, signed]
  split <;> push_cast <;> ring

/-- A number is its absolute value with its sign. -/
lemma sign_mul_natAbs {negative : Bool} {n : ℤ} (hneg : negative → n ≤ 0)
    (hpos : ¬ negative → 0 ≤ n) : (if negative then -1 else 1) * (n.natAbs : ℚ) = n := by
  have habs : (if negative then -1 else 1) * (n.natAbs : ℤ) = n := by
    split
    · next h => have := hneg h; omega
    · next h => have := hpos h; omega
  rw [← Int.cast_natCast]
  conv_rhs => rw [← habs]
  split <;> simp

section

variable {d : Binary}

/-- The fields of the nearest float, within the range of floats. -/
lemma fields_nearestBits (h : d.magnitude < 0x7FF * 2 ^ 52) :
    d.nearestBits.toNat / 2 ^ 52 % 2 ^ 11 = d.magnitude / 2 ^ 52 ∧
      d.nearestBits.toNat % 2 ^ 52 = d.magnitude % 2 ^ 52 ∧
      decide (2 ^ 63 ≤ d.nearestBits.toNat) = d.negative := by
  rw [toNat_nearestBits, min_eq_left h.le]
  cases d.negative <;> simp <;> omega

lemma isFiniteBits_nearestBits (h : d.magnitude < 0x7FF * 2 ^ 52) : isFiniteBits d.nearestBits := by
  rw [isFiniteBits_iff, (fields_nearestBits h).1]
  omega

/-- The nearest float is what is kept, in units of the last place. -/
lemma value_ofBits_nearestBits (h : d.magnitude < 0x7FF * 2 ^ 52) :
    (ofBits d.nearestBits).value = (if d.negative then -1 else 1) * d.kept * 2 ^ d.lastPlace := by
  obtain ⟨hfield, hfraction, hsign⟩ := fields_nearestBits h
  have hbits : ofBits d.nearestBits =
      if d.magnitude / 2 ^ 52 = 0 then ⟨d.negative, d.magnitude % 2 ^ 52, -1074⟩
      else ⟨d.negative, 2 ^ 52 + d.magnitude % 2 ^ 52, (d.magnitude / 2 ^ 52 : ℕ) - 1075⟩ := by
    rw [ofBits_eq, hfield, hfraction, hsign]
  by_cases hsmall : d.kept < 2 ^ 52
  · -- a subnormal float, or zero
    have hmagnitude : d.magnitude = d.kept := if_pos hsmall
    rw [hbits, hmagnitude, if_pos (Nat.div_eq_of_lt hsmall), Nat.mod_eq_of_lt hsmall, value_eq_mul]
    by_cases hzero : d.significand = 0
    · simp [d.kept_of_significand_eq_zero hzero]
    · rw [d.lastPlace_of_kept_lt hzero hsmall]
  · have hmagnitude : d.magnitude = (d.lastPlace + 1074).toNat * 2 ^ 52 + d.kept := if_neg hsmall
    have hlast := d.neg_1074_le_lastPlace
    have hnormal : d.magnitude / 2 ^ 52 ≠ 0 := by omega
    rw [hbits, if_neg hnormal, value_eq_mul]
    rcases d.kept_le.lt_or_eq with hlt | heq
    · have hmod : 2 ^ 52 + d.magnitude % 2 ^ 52 = d.kept := by omega
      have hexponent : ((d.magnitude / 2 ^ 52 : ℕ) : ℤ) - 1075 = d.lastPlace := by omega
      simp only [hmod, hexponent]
    · -- a carry out of the leading place
      have hmod : d.magnitude % 2 ^ 52 = 0 := by omega
      have hexponent : ((d.magnitude / 2 ^ 52 : ℕ) : ℤ) - 1075 = d.lastPlace + 1 := by omega
      simp only [hmod, hexponent, heq, zpow_add_one₀ (two_ne_zero (α := ℚ))]
      push_cast
      ring

/-- The nearest float is finite if what is kept is in range. -/
lemma magnitude_lt_iff :
    d.magnitude < 0x7FF * 2 ^ 52 ↔ (d.kept : ℚ) * 2 ^ d.lastPlace < 2 ^ (1024 : ℤ) := by
  have hscale : (d.kept : ℚ) * 2 ^ d.lastPlace < 2 ^ (1024 : ℤ) ↔
      (d.kept : ℚ) < 2 ^ (1024 - d.lastPlace) := by
    rw [zpow_sub₀ two_ne_zero, lt_div_iff₀ (zpow_pos two_pos _)]
  have hpow {k l : ℤ} (h : k ≤ l) : (2 : ℚ) ^ k ≤ 2 ^ l := zpow_le_zpow_right₀ one_le_two h
  have hlast := d.neg_1074_le_lastPlace
  have hmagnitude := d.magnitude_eq
  rw [hscale]
  by_cases hzero : d.significand = 0
  · rw [hmagnitude, d.kept_of_significand_eq_zero hzero]
    simpa using zpow_pos (two_pos (α := ℚ)) _
  · rcases le_or_gt d.lastPlace 971 with hlow | hhigh
    · rcases hlow.lt_or_eq with hlow | heq
      · have hkept : (d.kept : ℚ) ≤ 2 ^ (53 : ℤ) := by exact_mod_cast d.kept_le
        have hlt : (2 : ℚ) ^ (53 : ℤ) < 2 ^ (54 : ℤ) := by norm_num
        refine iff_of_true ?_ (hkept.trans_lt (hlt.trans_le (hpow (by omega))))
        have := d.kept_le
        rw [hmagnitude]
        split <;> omega
      · have hbound : (d.kept : ℚ) < 2 ^ (1024 - d.lastPlace) ↔ d.kept < 2 ^ 53 := by
          rw [heq, show (1024 : ℤ) - 971 = (53 : ℕ) by norm_num, zpow_natCast]
          exact_mod_cast Iff.rfl
        rw [hbound, hmagnitude]
        split <;> omega
    · have hkept := d.le_kept hzero (by omega)
      have hbound : (2 : ℚ) ^ (1024 - d.lastPlace) ≤ d.kept :=
        (hpow (by omega : 1024 - d.lastPlace ≤ (52 : ℕ))).trans (by exact_mod_cast hkept)
      refine iff_of_false ?_ (not_lt.mpr hbound)
      rw [hmagnitude, if_neg (not_lt.mpr hkept)]
      omega

/-- The nearest float of an exact value that is in range after the rounding. -/
lemma value_of_kept {q : ℚ} (hkept : d.kept * 2 ^ d.lastPlace = q) (hrange : q < 2 ^ (1024 : ℤ)) :
    d.magnitude < 0x7FF * 2 ^ 52 ∧
      (ofBits d.nearestBits).value = (if d.negative then -1 else 1) * q := by
  have hmagnitude : d.magnitude < 0x7FF * 2 ^ 52 := by rwa [magnitude_lt_iff, hkept]
  refine ⟨hmagnitude, ?_⟩
  rw [value_ofBits_nearestBits hmagnitude, mul_assoc, hkept]

/-- Where the significand reaches no further than the last place, all of it is kept. -/
lemma kept_mul_zpow (h : d.lastPlace ≤ d.exponent) :
    (d.kept : ℚ) * 2 ^ d.lastPlace = d.significand * 2 ^ d.exponent := by
  have hsplit : d.exponent = ((d.exponent - d.lastPlace).toNat : ℤ) + d.lastPlace := by omega
  rw [kept, if_pos h, Nat.pow_eq]
  conv_rhs => rw [hsplit, zpow_add₀ two_ne_zero, zpow_natCast]
  push_cast
  ring

/-! ### Floats -/

lemma toBits_ofBits {b : UInt64} (h : isFiniteBits b) : (Float.ofBits b).toBits = b := by
  have hnan : @Float.Model.UnpackedFloat.isNaNBits .binary64 b.toBitVec = false :=
    decide_eq_false fun hnan => unpackExponent_ne h hnan.1
  rw [← UInt64.toBitVec_inj]
  change (Float.Model.UnpackedFloat.unpack .binary64 b.toBitVec).pack .binary64 = _
  rw [Float.Model.UnpackedFloat.pack_unpack, hnan]
  rfl

/-- Within the range of floats, an exact value has a nearest float. -/
lemma ofFloat?_toFloat (h : d.magnitude < 0x7FF * 2 ^ 52) :
    ofFloat? d.toFloat = some (ofBits d.nearestBits) := by
  have hfinite := isFiniteBits_nearestBits h
  rw [ofFloat?, toFloat, toBits_ofBits hfinite, if_pos hfinite]

/-- Beyond the range of floats, the nearest one is an infinity. -/
lemma not_isFiniteBits_toFloat (h : ¬ d.magnitude < 0x7FF * 2 ^ 52) :
    ¬ isFiniteBits d.toFloat.toBits := by
  have hbits : d.nearestBits = 0x7FF0000000000000 ∨ d.nearestBits = 0xFFF0000000000000 := by
    have hN := d.toNat_nearestBits
    rw [min_eq_right (not_lt.mp h)] at hN
    rw [← UInt64.toNat_inj, ← UInt64.toNat_inj, hN]
    cases d.negative
    · exact .inl rfl
    · exact .inr rfl
  rw [toFloat]
  rcases hbits with hbits | hbits <;> rw [hbits] <;> decide +kernel

/-- An exact value of at most 53 places in range is the value of its nearest float. -/
lemma exists_ofFloat?_toFloat (hsignificand : d.significand < 2 ^ 53) (hlow : -1074 ≤ d.exponent)
    (hhigh : d.exponent ≤ 971) : ∃ d', ofFloat? d.toFloat = some d' ∧ d'.value = d.value := by
  have hlast : d.lastPlace ≤ d.exponent := by
    have := bitLength_le_iff.mpr hsignificand
    unfold lastPlace
    omega
  have hbound : (d.significand : ℚ) * 2 ^ d.exponent < 2 ^ (1024 : ℤ) := by
    calc (d.significand : ℚ) * 2 ^ d.exponent < 2 ^ 53 * 2 ^ d.exponent :=
          mul_lt_mul_of_pos_right (by exact_mod_cast hsignificand) (zpow_pos two_pos _)
      _ ≤ 2 ^ 53 * 2 ^ (971 : ℤ) :=
          mul_le_mul_of_nonneg_left (zpow_le_zpow_right₀ one_le_two hhigh) (by positivity)
      _ = 2 ^ (1024 : ℤ) := by
          rw [← zpow_natCast (2 : ℚ) 53, ← zpow_add₀ two_ne_zero]
          rfl
  obtain ⟨hrange, hvalue⟩ := value_of_kept (kept_mul_zpow hlast) hbound
  refine ⟨_, ofFloat?_toFloat hrange, ?_⟩
  rw [hvalue, value_eq_mul, mul_assoc]

end

end Sigil.Decimal.Binary
