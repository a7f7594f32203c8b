/-
# Sums of floats

The sum of two floats is their exact sum, rounded once.  A float is unpacked to its exact value, and
what rounds a sum, a shift that remembers whether something was cut off, keeps the same places as
the rounding of exact values.
-/
import Sigil.Proofs.FloatRounding

namespace Sigil.Decimal.Binary

open Float.Model (UnpackedFloat Format totalExponent)
open Float.Model.UnpackedFloat

/-! ### Shifting -/

/-- What is left of a mantissa after a shift: the quotient, whether the remainder is at least half a
place, and whether it is neither nothing nor exactly half a place. -/
def shifted (m n : ℕ) : ExtendedMantissa :=
  ⟨m / 2 ^ n, decide (2 ^ n ≤ 2 * (m % 2 ^ n)),
    decide (2 * (m % 2 ^ n) ≠ 0 ∧ 2 * (m % 2 ^ n) ≠ 2 ^ n)⟩

lemma shifted_zero (m : ℕ) : shifted m 0 = ⟨m, false, false⟩ := by
  simp [shifted, Nat.mod_one]

lemma shiftRightOne_shifted (m n : ℕ) : (shifted m n).shiftRightOne = shifted m (n + 1) := by
  have hpos : 0 < 2 ^ n := Nat.two_pow_pos n
  have hrest : m % 2 ^ n < 2 ^ n := Nat.mod_lt _ hpos
  have hsplit : m % 2 ^ (n + 1) = m % 2 ^ n + 2 ^ n * (m / 2 ^ n % 2) := by
    rw [pow_succ, Nat.mod_mul]
  have hdouble : 2 ^ (n + 1) = 2 * 2 ^ n := by rw [pow_succ, mul_comm]
  have hbit : m / 2 ^ n % 2 = 0 ∨ m / 2 ^ n % 2 = 1 := Nat.mod_two_eq_zero_or_one _
  rw [shifted, shifted, ExtendedMantissa.shiftRightOne, ExtendedMantissa.mk.injEq, hsplit, hdouble]
  refine ⟨by rw [Nat.div_div_eq_div_mul, mul_comm], ?_, ?_⟩
  · rcases hbit with hbit | hbit
    · simp [hbit]; omega
    · simp [hbit]
  · rw [← Bool.decide_or]
    refine decide_eq_decide.mpr ?_
    rcases hbit with hbit | hbit <;> rw [hbit] <;> omega

lemma shiftRight_eq_shifted (m n : ℕ) :
    (⟨m, false, false⟩ : ExtendedMantissa) >>> n = shifted m n := by
  induction n with
  | zero => exact (shifted_zero m).symm
  | succ n ih =>
      rw [← shiftRightOne_shifted, ← ih]
      rfl

lemma roundedMantissa_shifted (m n : ℕ) : (shifted m n).roundedMantissa = roundShift m n := by
  have hpos : 0 < 2 ^ n := Nat.two_pow_pos n
  rw [roundShift_eq, shifted, ExtendedMantissa.roundedMantissa]
  rcases lt_trichotomy (2 * (m % 2 ^ n)) (2 ^ n) with h | h | h
  · rw [if_pos h, decide_eq_false (not_le.mpr h)]
    by_cases hexact : 2 * (m % 2 ^ n) = 0
    · rw [decide_eq_false fun hs => hs.1 hexact]
      rfl
    · rw [decide_eq_true ⟨hexact, h.ne⟩]
      rfl
  · rw [if_neg (by omega), if_neg (by omega), decide_eq_true h.ge, decide_eq_false fun hs => hs.2 h]
    rfl
  · rw [if_neg (by omega), if_pos h, decide_eq_true h.le, decide_eq_true ⟨by omega, by omega⟩]
    rfl

/-! ### Rounding -/

/-- The sign of an exact value. -/
def sign (negative : Bool) : Sign := if negative then .negative else .positive

lemma targetExponent_eq (negative : Bool) {m : ℕ} (hm : m ≠ 0) (e : ℤ) :
    Format.targetExponent .binary64 (totalExponent m e) = lastPlace ⟨negative, m, e⟩ := by
  have hlength : bitLength m = m.log2 + 1 := by simp [bitLength, hm]
  simp only [Format.targetExponent, totalExponent, lastPlace, hlength, Format.mantissaBits,
    Format.minExponent]
  norm_num
  omega

lemma shiftToTargetExponent_eq (m : ℕ) (e : ℤ) :
    let shift := (Format.targetExponent .binary64 (totalExponent m e) - e).toNat
    shiftToTargetExponent .binary64 m e .exact = (shifted m shift, e + shift) := by
  simp only [shiftToTargetExponent, shiftToExponent, ExtendedMantissa.ofMantissaAndAccuracy,
    shiftRight_eq_shifted]

lemma shiftToTargetExponent_of_le {m : ℕ} {e : ℤ} (hm : m ≠ 0)
    (h : lastPlace ⟨false, m, e⟩ ≤ e) :
    shiftToTargetExponent .binary64 m e .exact = (shifted m 0, e) := by
  rw [shiftToTargetExponent_eq, targetExponent_eq false hm, Int.toNat_eq_zero.mpr (by omega)]
  simp

/-- After the first shift and the rounding, a carry out of the leading place is shifted again. -/
lemma roundWithAccuracy_eq {s : Sign} {m k : ℕ} {e last : ℤ} {x : ExtendedMantissa}
    (hfirst : shiftToTargetExponent .binary64 m e .exact = (x, last))
    (hround : x.roundedMantissa = k) (hk : k ≤ 2 ^ 53) (hlast : -1074 ≤ last) :
    roundWithAccuracy .binary64 s m e .exact =
      if h : k = 0 then .zero s
      else if k < 2 ^ 53 then .finite s k last (Nat.pos_of_ne_zero h)
      else .finite s (2 ^ 52) (last + 1) (Nat.two_pow_pos 52) := by
  simp only [roundWithAccuracy, hfirst, hround]
  by_cases hzero : k = 0
  · simp [hzero, shiftToTargetExponent_eq, shifted]
  · by_cases hlt : k < 2 ^ 53
    · have hsecond : shiftToTargetExponent .binary64 k last .exact = (shifted k 0, last) := by
        have hlength := bitLength_le_iff.mpr hlt
        refine shiftToTargetExponent_of_le hzero ?_
        simp only [lastPlace]
        omega
      simp only [hsecond, shifted_zero, hzero, hlt, dif_neg, if_pos, not_false_eq_true]
    · have heq : k = 2 ^ 53 := le_antisymm hk (not_lt.mp hlt)
      have hsecond : shiftToTargetExponent .binary64 k last .exact =
          (shifted k 1, last + 1) := by
        have hlength : bitLength (2 ^ 53) = 54 := by decide +kernel
        have hcarry : lastPlace ⟨false, 2 ^ 53, last⟩ = last + 1 := by
          simp only [lastPlace, hlength]
          omega
        rw [heq, shiftToTargetExponent_eq, targetExponent_eq false (by norm_num), hcarry]
        simp
      have hmantissa : (shifted k 1).mantissa = 2 ^ 52 := by
        rw [shifted, heq]
        rfl
      simp only [hsecond, hmantissa, hzero, hlt, dif_neg, if_neg, not_false_eq_true]
      rfl

/-- A sum is rounded to the places that are kept. -/
lemma round_eq {d : Binary} (hd : d.significand ≠ 0) :
    UnpackedFloat.round .binary64 (sign d.negative) d.significand d.exponent =
      if h : d.kept = 0 then .zero (sign d.negative)
      else if d.kept < 2 ^ 53 then
        .finite (sign d.negative) d.kept d.lastPlace (Nat.pos_of_ne_zero h)
      else .finite (sign d.negative) (2 ^ 52) (d.lastPlace + 1) (Nat.two_pow_pos 52) := by
  -- the exponent is lowered to the last place where it lies above it, and raised otherwise
  set lowered := (d.exponent - d.lastPlace).toNat with hlowered
  have hlast : lastPlace ⟨d.negative, d.significand * 2 ^ lowered, d.exponent - lowered⟩ =
      d.lastPlace := by
    have hlength := bitLength_mul_pow hd lowered
    simp only [lastPlace, hlength]
    omega
  rw [UnpackedFloat.round, targetExponent_eq d.negative hd]
  refine roundWithAccuracy_eq (x := shifted (d.significand * 2 ^ lowered)
    (d.lastPlace - d.exponent).toNat) ?_ ?_ d.kept_le d.neg_1074_le_lastPlace
  · have hscaled : d.significand * 2 ^ lowered ≠ 0 := mul_ne_zero hd (Nat.two_pow_pos _).ne'
    change shiftToTargetExponent .binary64 (d.significand <<< lowered) (d.exponent - lowered)
      .exact = _
    rw [Nat.shiftLeft_eq, shiftToTargetExponent_eq, targetExponent_eq d.negative hscaled, hlast]
    rw [Prod.mk.injEq]
    exact ⟨by congr 1; omega, by omega⟩
  · rw [roundedMantissa_shifted, kept_eq]

/-! ### Packing -/

lemma toNat_packComponents (negative : Bool) (e : BitVec 11) (m : BitVec 52) :
    (packComponents .binary64 (sign negative) e m).toNat =
      (if negative then 2 ^ 63 else 0) + e.toNat * 2 ^ 52 + m.toNat := by
  have happend {v w : ℕ} (x : BitVec v) (y : BitVec w) :
      (x ++ y).toNat = x.toNat * 2 ^ w + y.toNat := by
    rw [BitVec.toNat_append, ← Nat.shiftLeft_add_eq_or_of_lt y.isLt, Nat.shiftLeft_eq]
  rw [packComponents, happend, happend]
  cases negative <;> simp [sign, Sign.toBitVec]
  ring

section

variable (negative : Bool) {m : ℕ} (hm : 0 < m)

lemma toNat_pack_subnormal (h : m < 2 ^ 52) :
    (pack .binary64 (.finite (sign negative) m (-1074) hm)).toNat =
      (if negative then 2 ^ 63 else 0) + m := by
  have hlog : m.log2 < 52 := (Nat.log2_lt hm.ne').mpr h
  have hbiased : ((-1074 : ℤ) + Format.exponentBias .binary64 +
      Format.mantissaBitsWithoutImplicit .binary64).toNat = 1 := by decide
  rw [pack]
  simp only [hbiased, Format.mantissaBits]
  have hvalue : (BitVec.ofNat 52 m).toNat = m := by
    rw [BitVec.toNat_ofNat, Nat.mod_eq_of_lt h]
  rw [if_neg (by norm_num), if_neg (by omega), toNat_packComponents, hvalue]
  simp

lemma toNat_pack_normal {e : ℤ} (hlow : 2 ^ 52 ≤ m) (hhigh : m < 2 ^ 53) (he : -1074 ≤ e)
    (he' : e < 972) : (pack .binary64 (.finite (sign negative) m e hm)).toNat =
      (if negative then 2 ^ 63 else 0) + ((e + 1074).toNat * 2 ^ 52 + m) := by
  have hlog : m.log2 = 52 := (Nat.log2_eq_iff hm.ne').mpr ⟨hlow, hhigh⟩
  have hbiased : (e + Format.exponentBias .binary64 +
      Format.mantissaBitsWithoutImplicit .binary64).toNat = (e + 1074).toNat + 1 := by
    simp only [Format.exponentBias]
    norm_num
    omega
  rw [pack]
  simp only [hbiased, hlog, Format.mantissaBits]
  rw [if_neg (by norm_num; omega), if_pos (by norm_num), toNat_packComponents, BitVec.toNat_ofNat,
    BitVec.toNat_ofNat, Nat.mod_eq_of_lt (by omega)]
  omega

end

/-- Within the range of floats, what is rounded is packed into the bits of the nearest float. -/
lemma toNat_pack_round {d : Binary} (hd : d.significand ≠ 0)
    (hrange : d.magnitude < 0x7FF * 2 ^ 52) :
    (pack .binary64
      (UnpackedFloat.round .binary64 (sign d.negative) d.significand d.exponent)).toNat =
      d.nearestBits.toNat := by
  have hmagnitude := d.magnitude_eq
  have hlast := d.neg_1074_le_lastPlace
  rw [toNat_nearestBits, min_eq_left hrange.le, round_eq hd]
  by_cases hzero : d.kept = 0
  · have hnothing : d.magnitude = 0 := by rw [hmagnitude, hzero]; rfl
    rw [dif_pos hzero, hnothing]
    change (packComponents .binary64 (sign d.negative) 0 0).toNat = _
    rw [toNat_packComponents]
    simp
  · rw [dif_neg hzero]
    by_cases hlow : d.kept < 2 ^ 52
    · have hsubnormal := d.lastPlace_of_kept_lt hd hlow
      rw [if_pos (hlow.trans (by norm_num)), hmagnitude, if_pos hlow]
      simp only [hsubnormal]
      exact toNat_pack_subnormal _ _ hlow
    · rw [if_neg hlow] at hmagnitude
      rw [hmagnitude]
      by_cases hhigh : d.kept < 2 ^ 53
      · rw [if_pos hhigh]
        exact toNat_pack_normal _ _ (not_lt.mp hlow) hhigh hlast (by omega)
      · have hcarry : d.kept = 2 ^ 53 := le_antisymm d.kept_le (not_lt.mp hhigh)
        rw [if_neg hhigh, toNat_pack_normal _ _ le_rfl (by norm_num) (by omega) (by omega), hcarry]
        omega

/-! ### Unpacking -/

section

variable (b : BitVec (Format.numBits .binary64))

lemma toNat_unpackExponent : (unpackExponent b).toNat = b.toNat / 2 ^ 52 % 2 ^ 11 := by
  simp [unpackExponent, Nat.shiftRight_eq_div_pow]

lemma toNat_unpackMantissa : (unpackMantissa b).toNat = b.toNat % 2 ^ 52 := by
  simp [unpackMantissa]

lemma ofBitVec_unpackSign : Sign.ofBitVec (unpackSign b) = sign (decide (2 ^ 63 ≤ b.toNat)) := by
  have hlt : b.toNat < 2 ^ 64 := b.isLt
  have hbit : unpackSign b = 0#1 ↔ ¬ 2 ^ 63 ≤ b.toNat := by
    rw [← BitVec.toNat_inj]
    simp [unpackSign, Nat.shiftRight_eq_div_pow]
    omega
  simp only [Sign.ofBitVec, sign, decide_eq_true_eq]
  by_cases h : 2 ^ 63 ≤ b.toNat
  · rw [if_neg (mt hbit.mp (not_not.mpr h)), if_pos h]
  · rw [if_pos (hbit.mpr h), if_neg h]

end

lemma finite_congr {s s' : Sign} {m m' : ℕ} {e e' : ℤ} {hm : 0 < m} {hm' : 0 < m'} (hs : s = s')
    (hmm' : m = m') (he : e = e') : UnpackedFloat.finite s m e hm = .finite s' m' e' hm' := by
  subst hs hmm' he
  rfl

/-- A finite float other than zero is unpacked to its exact value. -/
lemma unpack_eq {x : Float} {d : Binary} (hx : ofFloat? x = some d) (hd : d.significand ≠ 0) :
    x.toModel.unpack =
      .finite (sign d.negative) d.significand d.exponent (Nat.pos_of_ne_zero hd) := by
  simp only [ofFloat?, Option.ite_none_right_eq_some, Option.some.injEq] at hx
  obtain ⟨hfinite, rfl⟩ := hx
  have hexponent := toNat_unpackExponent x.toBits.toBitVec
  have hmantissa := toNat_unpackMantissa x.toBits.toBitVec
  have hsign := ofBitVec_unpackSign x.toBits.toBitVec
  have hbits := ofBits_eq x.toBits
  rw [UInt64.toNat_toBitVec] at hexponent hmantissa hsign
  change unpack .binary64 x.toBits.toBitVec = _
  unfold unpack
  simp only
  rw [if_neg (unpackExponent_ne hfinite)]
  by_cases hfield : x.toBits.toNat / 2 ^ 52 % 2 ^ 11 = 0
  · rw [if_pos hfield] at hbits
    have hzero : @unpackExponent .binary64 x.toBits.toBitVec = 0#11 :=
      BitVec.eq_of_toNat_eq (hexponent.trans hfield)
    have hfraction : @unpackMantissa .binary64 x.toBits.toBitVec ≠ 0#52 := fun h => by
      rw [h] at hmantissa
      exact hd (by rw [hbits]; exact hmantissa.symm)
    rw [if_pos hzero, dif_neg hfraction]
    refine finite_congr ?_ ?_ ?_
    · rw [hsign, hbits]
    · rw [hmantissa, hbits]
    · rw [hexponent, hfield, hbits]
      rfl
  · rw [if_neg hfield] at hbits
    have hnonzero : @unpackExponent .binary64 x.toBits.toBitVec ≠ 0#11 := fun h => by
      rw [h] at hexponent
      exact hfield hexponent.symm
    rw [if_neg hnonzero]
    refine finite_congr ?_ ?_ ?_
    · rw [hsign, hbits]
    · rw [hbits, BitVec.toNat_append, ← Nat.shiftLeft_add_eq_or_of_lt (BitVec.isLt _), hmantissa]
      rfl
    · rw [hexponent, hbits]
      rfl

/-! ### Sums -/

/-- The exact sum, at the smaller of the two exponents. -/
def exactSum (a b : Binary) : Binary :=
  let e := min a.exponent b.exponent
  let m := a.signed * 2 ^ (a.exponent - e).toNat + b.signed * 2 ^ (b.exponent - e).toNat
  ⟨decide (m < 0), m.natAbs, e⟩

lemma value_exactSum (a b : Binary) : (exactSum a b).value = a.value + b.value := by
  have hsigned : (exactSum a b).signed =
      a.signed * 2 ^ (a.exponent - min a.exponent b.exponent).toNat +
        b.signed * 2 ^ (b.exponent - min a.exponent b.exponent).toNat :=
    signed_ofInt _
  rw [value_eq_of_le a (min_le_left _ b.exponent), value_eq_of_le b (min_le_right a.exponent _),
    ← add_mul, value, hsigned]
  push_cast [Int.pow_eq]
  rfl

lemma normalize_eq {m : ℤ} (hm : m ≠ 0) (e : ℤ) (s : Sign) :
    UnpackedFloat.normalize .binary64 m e s =
      UnpackedFloat.round .binary64 (sign (decide (m < 0))) m.natAbs e := by
  unfold UnpackedFloat.normalize
  rcases lt_or_gt_of_ne hm with h | h
  · rw [compare_lt_iff_lt.mpr h, decide_eq_true h]
    have habs : (-m).toNat = m.natAbs := by omega
    simp only [habs]
    rfl
  · rw [compare_gt_iff_gt.mpr h, decide_eq_false (not_lt.mpr h.le)]
    have habs : m.toNat = m.natAbs := by omega
    simp only [habs]
    rfl

lemma apply_sign (negative : Bool) (m : ℕ) :
    (sign negative).apply m = if negative then -(m : ℤ) else m := by
  cases negative <;> rfl

/-- The sum of two floats other than zero is the float nearest to their exact sum, if that is not
zero and in range. -/
lemma add_eq_toFloat {x y : Float} {a b : Binary} (hx : ofFloat? x = some a)
    (hy : ofFloat? y = some b) (ha : a.significand ≠ 0) (hb : b.significand ≠ 0)
    (hsum : (exactSum a b).significand ≠ 0) (hrange : (exactSum a b).magnitude < 0x7FF * 2 ^ 52) :
    x + y = (exactSum a b).toFloat := by
  have hadd : UnpackedFloat.add .binary64 x.toModel.unpack y.toModel.unpack =
      UnpackedFloat.round .binary64 (sign (exactSum a b).negative) (exactSum a b).significand
        (exactSum a b).exponent := by
    rw [unpack_eq hx ha, unpack_eq hy hb]
    have hscaled (d : Binary) (k : ℕ) :
        (sign d.negative).apply (d.significand <<< k : ℕ) = d.signed * 2 ^ k := by
      rw [apply_sign, signed, Nat.shiftLeft_eq]
      split <;> push_cast <;> ring
    have hmantissa := Int.natAbs_ne_zero.mp hsum
    rw [UnpackedFloat.add]
    simp only [decreaseExponent, hscaled]
    exact normalize_eq hmantissa _ _
  rw [← Float.toBits_inj, toFloat, toBits_ofBits (isFiniteBits_nearestBits hrange),
    ← UInt64.toNat_inj, ← toNat_pack_round hsum hrange, ← hadd]
  rfl

end Sigil.Decimal.Binary
