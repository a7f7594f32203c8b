/-
# Rounded seconds

Seconds with a fraction are held by a float: they are rounded, and rounded once more when they are
multiplied to milliseconds.  What is then cut off to an integer is the exact number of seconds or of
milliseconds unless the rounding crosses that integer, and how near it may come follows from the
place at which the seconds begin.
-/
import Sigil.Proofs.NearestValues

namespace Sigil.Moment

open Sigil.Decimal.Binary

/-! ### Rounded seconds -/

/-- A fraction of a second that is the microseconds, or the float nearest to them. -/
structure IsFraction (u : ℕ) (f : ℚ) : Prop where
  lt : u < 1000000
  nonneg : 0 ≤ f
  near : |f - u / 1000000| ≤ 1 / 2 ^ 54

lemma isFraction_exact {u : ℕ} (hu : u < 1000000) : IsFraction u (u / 1000000) where
  lt := hu
  nonneg := by positivity
  near := by norm_num

lemma isFraction_nearest {u : ℕ} (hu : u < 1000000) : IsFraction u (nearest (u / 1000000)) where
  lt := hu
  nonneg := nearest_nonneg (by positivity)
  near := by
    have hlt : (u : ℚ) / 1000000 < 2 ^ (0 : ℤ) := by
      rw [zpow_zero, div_lt_one (by norm_num)]
      exact_mod_cast hu
    have hnear := abs_nearest_sub_le_of_lt (by positivity) hlt (by norm_num)
    norm_num at hnear ⊢
    exact hnear

/-- The seconds as a float holds them. -/
def heldSeconds (s : ℕ) (f : ℚ) : ℚ := nearest (s + f)

/-- The milliseconds that the float is multiplied to. -/
def heldMilliseconds (s : ℕ) (f : ℚ) : ℚ := nearest (1000 * heldSeconds s f)

/-- The power of two at the leading place of the seconds, or one. -/
def lead (s : ℕ) : ℚ := 2 ^ s.log2

section

variable {s u : ℕ} {f : ℚ}

lemma one_le_lead (s : ℕ) : 1 ≤ lead s := one_le_pow₀ one_le_two

lemma lead_le (h : s ≠ 0) : lead s ≤ s := by
  rw [lead]
  exact_mod_cast Nat.log2_self_le h

lemma lt_two_mul_lead (s : ℕ) : (s : ℚ) + 1 ≤ 2 * lead s := by
  have hlt : s + 1 ≤ 2 * 2 ^ s.log2 := by
    rw [← pow_succ']
    exact Nat.lt_log2_self
  rw [lead]
  exact_mod_cast hlt

lemma two_pow_log2_le {k : ℕ} (h : s < 2 ^ (k + 1)) : 2 ^ s.log2 ≤ 2 ^ k := by
  refine Nat.pow_le_pow_right two_pos ?_
  rcases eq_or_ne s 0 with rfl | hs
  · exact Nat.zero_le k
  · exact Nat.le_of_lt_succ ((Nat.log2_lt hs).mpr h)

lemma lead_le_of_lt {k : ℕ} (h : s < 2 ^ (k + 1)) : lead s ≤ 2 ^ k := by
  rw [lead]
  exact_mod_cast two_pow_log2_le h

lemma zpow_log2_add (s : ℕ) (k : ℤ) : (2 : ℚ) ^ (s.log2 + k) = lead s * 2 ^ k := by
  rw [zpow_add₀ two_ne_zero, zpow_natCast, lead]

/-- What rounding can make good for in a number that has so many more digits than the seconds. -/
lemma le_half_placeOf {q : ℚ} (k : ℕ) (hk : lead s * 2 ^ k ≤ q) :
    lead s * 2 ^ k / 2 ^ 53 ≤ 2 ^ placeOf q / 2 := by
  have hplace : (s.log2 : ℤ) + k - 52 ≤ placeOf q := by
    refine le_placeOf ?_
    rwa [zpow_log2_add, zpow_natCast]
  have hpow := zpow_le_zpow_right₀ (one_le_two (α := ℚ)) hplace
  have heq : (2 : ℚ) ^ ((s.log2 : ℤ) + k - 52) / 2 = lead s * 2 ^ k / 2 ^ 53 := by
    rw [add_sub_assoc, zpow_log2_add, zpow_sub₀ two_ne_zero, zpow_natCast]
    norm_num
    ring
  linarith

namespace IsFraction

variable (h : IsFraction u f)

include h

lemma lt_one : f < 1 := by
  have hu : (u : ℚ) ≤ 999999 := by exact_mod_cast Nat.le_of_lt_succ h.lt
  have hnear := (abs_le.mp h.near).2
  linarith

/-- The seconds with their fraction lie below twice the leading place. -/
lemma add_lt (s : ℕ) : s + f < 2 * lead s := by
  have hs := lt_two_mul_lead s
  have hf := h.lt_one
  linarith

lemma add_lt_zpow (s : ℕ) : s + f < 2 ^ ((s.log2 : ℤ) + 1) := by
  rw [zpow_log2_add, zpow_one, mul_comm]
  exact h.add_lt s

/-- How far the seconds of the float are off. -/
lemma abs_heldSeconds_sub_le (s : ℕ) : |heldSeconds s f - (s + f)| ≤ lead s / 2 ^ 53 := by
  have hnonneg := h.nonneg
  refine (abs_nearest_sub_le_of_lt (by positivity) (h.add_lt_zpow s) (by omega)).trans_eq ?_
  rw [show (s.log2 : ℤ) + 1 - 54 = s.log2 + (-53) by ring, zpow_log2_add]
  norm_num
  ring

lemma heldSeconds_nonneg (s : ℕ) : 0 ≤ heldSeconds s f :=
  nearest_nonneg (add_nonneg (Nat.cast_nonneg s) h.nonneg)

/-- How far the milliseconds are off those of the float. -/
lemma abs_heldMilliseconds_sub_le (s : ℕ) :
    |heldMilliseconds s f - 1000 * heldSeconds s f| ≤ lead s / 2 ^ 43 := by
  have hlt : 1000 * heldSeconds s f < 2 ^ ((s.log2 : ℤ) + 11) := by
    have hlead := one_le_lead s
    have hsum := h.add_lt s
    have hnear := (abs_le.mp (h.abs_heldSeconds_sub_le s)).2
    rw [zpow_log2_add]
    norm_num
    linarith
  have hnonneg := h.heldSeconds_nonneg s
  refine (abs_nearest_sub_le_of_lt (by positivity) hlt (by omega)).trans_eq ?_
  rw [show (s.log2 : ℤ) + 11 - 54 = s.log2 + (-43) by ring, zpow_log2_add]
  norm_num
  ring

section

variable (hs : s < 2 ^ 38)

include hs

/-- Rounding does not go below the whole seconds. -/
lemma le_heldSeconds : s ≤ heldSeconds s f := by
  have hs' : (s : ℚ) < 2 ^ 38 := by exact_mod_cast hs
  have hf := h.lt_one
  have hnonneg := h.nonneg
  have hplace : placeOf (s + f) < 0 := placeOf_neg (by linarith)
  have hunit := zpow_placeOf_pos (s + f)
  refine (intCast_le_nearest_iff (n := s) hplace).mpr ?_
  push_cast
  linarith

lemma heldSeconds_lt : heldSeconds s f < s + 2 := by
  have hlead := lead_le_of_lt hs
  have hf := h.lt_one
  have hnear := (abs_le.mp (h.abs_heldSeconds_sub_le s)).2
  linarith

/-- Rounding reaches the next second where less is missing than half of the last place. -/
lemma add_one_le_heldSeconds_iff (hpos : s ≠ 0) :
    s + 1 ≤ heldSeconds s f ↔ 1 - lead s / 2 ^ 53 ≤ f := by
  have hs' : (s : ℚ) < 2 ^ 38 := by exact_mod_cast hs
  have hlead : lead s ≤ s := lead_le hpos
  have hf := h.lt_one
  have hnonneg := h.nonneg
  have hplace : placeOf (s + f) = s.log2 - 52 := by
    refine le_antisymm ?_ (le_placeOf ?_)
    · have hle := placeOf_le (by positivity) (h.add_lt_zpow s) (by omega)
      omega
    · rw [zpow_natCast]
      exact hlead.trans (by linarith)
  -- the last place is 52 binary places below the leading one
  have hhalf : (2 : ℚ) ^ placeOf (s + f) / 2 = lead s / 2 ^ 53 := by
    rw [hplace, sub_eq_add_neg, zpow_log2_add]
    norm_num
    ring
  have hiff := intCast_le_nearest_iff (n := (s + 1 : ℕ)) (placeOf_neg (q := s + f) (by linarith))
  rw [hhalf] at hiff
  push_cast at hiff
  rw [heldSeconds, hiff]
  constructor <;> intro hle <;> linarith

/-- Whether so little is missing can be told from the microseconds: a whole number of them is
missing, while half of the last place is no whole number of them, so that the two are never as close
as the fraction of a second may be off. -/
lemma one_sub_le_iff (hlarge : 2 ^ 34 ≤ s) :
    1 - lead s / 2 ^ 53 ≤ f ↔ (1000000 - u) * 2 ^ 53 ≤ 1000000 * 2 ^ s.log2 := by
  have hlow : 34 ≤ s.log2 := (Nat.le_log2 (by omega)).mpr hlarge
  have hhigh : s.log2 < 38 := (Nat.log2_lt (by omega)).mpr hs
  -- in units of half of the last place, the missing microseconds are a multiple of 128
  obtain ⟨j, hj⟩ : ∃ j, 53 = j + 7 + s.log2 := ⟨46 - s.log2, by omega⟩
  set missing := (1000000 - u) * 2 ^ j with hmissing
  have hunits : (1000000 - u) * 2 ^ 53 = missing * 128 * 2 ^ s.log2 := by
    rw [hj, pow_add, pow_add, hmissing]
    ring
  have hlead : lead s / 2 ^ 53 * (2 ^ j * 128) = 1 := by
    rw [hj, pow_add, pow_add, lead]
    field_simp
    norm_num
  have hplace : (1 : ℚ) / 2 ^ 19 ≤ lead s / 2 ^ 53 := by
    have hle : (2 : ℚ) ^ 34 ≤ lead s := pow_le_pow_right₀ one_le_two hlow
    linarith
  have hmissing' : (missing * 128 : ℚ) * (lead s / 2 ^ 53) = 1000000 - u := by
    rw [hmissing]
    push_cast [Nat.cast_sub h.lt.le]
    linear_combination (1000000 - (u : ℚ)) * hlead
  obtain ⟨hnear, hnear'⟩ := abs_le.mp h.near
  rw [hunits, Nat.mul_le_mul_right_iff (Nat.two_pow_pos _)]
  rcases le_or_gt (missing * 128) 1000000 with hle | hgt
  · have hless : (missing * 128 : ℚ) ≤ 999999 := by
      exact_mod_cast (by omega : missing * 128 ≤ 999999)
    have hscaled := mul_le_mul_of_nonneg_right hless (le_trans (by norm_num) hplace)
    refine iff_of_true ?_ hle
    linarith
  · have hmore : (1000001 : ℚ) ≤ missing * 128 := by exact_mod_cast hgt
    have hscaled := mul_le_mul_of_nonneg_right hmore (le_trans (by norm_num) hplace)
    refine iff_of_false (not_le.mpr ?_) (not_le.mpr hgt)
    linarith

/-- When the seconds of the float are those of the next second. -/
lemma next_le_heldSeconds_iff :
    s + 1 ≤ heldSeconds s f ↔ (1000000 - u) * 2 ^ 53 ≤ 1000000 * 2 ^ s.log2 := by
  have hu := h.lt
  rcases le_or_gt (2 ^ 34) s with hlarge | hsmall
  · rw [h.add_one_le_heldSeconds_iff hs (by omega), h.one_sub_le_iff hs hlarge]
  · -- here the last place is finer than a microsecond, and at least one of them is missing
    have hpow := two_pow_log2_le hsmall
    refine iff_of_false (not_le.mpr ?_) (by omega)
    have hlead := lead_le_of_lt hsmall
    have hu' : (u : ℚ) ≤ 999999 := by exact_mod_cast Nat.le_of_lt_succ hu
    have hfraction := (abs_le.mp h.near).2
    have hnear := (abs_le.mp (h.abs_heldSeconds_sub_le s)).2
    linarith

/-! ### Whole seconds -/

lemma floor_heldSeconds_eq_iff :
    ⌊heldSeconds s f⌋ = s ↔ 1000000 * 2 ^ s.log2 < (1000000 - u) * 2 ^ 53 := by
  have hle := h.le_heldSeconds hs
  rw [Int.floor_eq_iff, Int.cast_natCast, ← not_le (b := 1000000 * 2 ^ s.log2),
    ← h.next_le_heldSeconds_iff hs, not_le]
  exact and_iff_right hle

lemma floor_heldSeconds_eq : ⌊heldSeconds s f⌋ = s ∨ ⌊heldSeconds s f⌋ = s + 1 := by
  have hle : (s : ℤ) ≤ ⌊heldSeconds s f⌋ := Int.le_floor.mpr (h.le_heldSeconds hs)
  have hlt : ⌊heldSeconds s f⌋ < s + 2 := by
    have hlt := h.heldSeconds_lt hs
    exact Int.floor_lt.mpr (by push_cast; exact hlt)
  omega

/-! ### Whole milliseconds -/

omit hs in
/-- How far a thousand times the seconds of the float is off the milliseconds and the rest of the
microseconds. -/
lemma abs_thousand_mul_sub_le (s : ℕ) :
    |1000 * heldSeconds s f - ((1000 * s + u / 1000 : ℕ) + (u % 1000 : ℕ) / 1000)| ≤
      1 / 2 ^ 44 + 1000 * (lead s / 2 ^ 53) := by
  have hsplit : (u : ℚ) = 1000 * (u / 1000 : ℕ) + (u % 1000 : ℕ) := by
    exact_mod_cast (Nat.div_add_mod u 1000).symm
  have hseconds := abs_le.mp (h.abs_heldSeconds_sub_le s)
  have hfraction := abs_le.mp h.near
  rw [abs_le]
  push_cast
  constructor <;> linarith [hseconds.1, hseconds.2, hfraction.1, hfraction.2]

omit hs in
/-- The milliseconds are not passed if there is room for all that the rounding may add. -/
lemma heldMilliseconds_lt
    (hroom : (u % 1000 : ℕ) / 1000 + 1 / 2 ^ 44 + 2024 * (lead s / 2 ^ 53) < (1 : ℚ)) :
    heldMilliseconds s f < (1000 * s + u / 1000 : ℕ) + 1 := by
  have hthousand := (abs_le.mp (h.abs_thousand_mul_sub_le s)).2
  have hnear := (abs_le.mp (h.abs_heldMilliseconds_sub_le s)).2
  linarith

/-- The milliseconds are reached if the last rounding makes good for all that may be missing. -/
lemma le_heldMilliseconds {c : ℚ} (hc : c ≤ 2 ^ placeOf (1000 * heldSeconds s f) / 2)
    (hroom : 1 / 2 ^ 44 + 1000 * (lead s / 2 ^ 53) ≤ (u % 1000 : ℕ) / 1000 + c) :
    (1000 * s + u / 1000 : ℕ) ≤ heldMilliseconds s f := by
  have hs' : (s : ℚ) < 2 ^ 38 := by exact_mod_cast hs
  have hplace : placeOf (1000 * heldSeconds s f) < 0 :=
    placeOf_neg (by linarith [h.heldSeconds_lt hs])
  have hthousand := (abs_le.mp (h.abs_thousand_mul_sub_le s)).1
  refine (intCast_le_nearest_iff (n := (1000 * s + u / 1000 : ℕ)) hplace).mpr ?_
  rw [Int.cast_natCast]
  linarith

/-- The milliseconds of the float are off by at most one. -/
lemma abs_floor_heldMilliseconds_sub_le :
    |⌊heldMilliseconds s f⌋ - (1000 * s + u / 1000 : ℕ)| ≤ 1 := by
  have hlead := lead_le_of_lt hs
  have hthousand := abs_le.mp (h.abs_thousand_mul_sub_le s)
  have hnear := abs_le.mp (h.abs_heldMilliseconds_sub_le s)
  have hrest : ((u % 1000 : ℕ) : ℚ) ≤ 999 := by
    exact_mod_cast Nat.le_of_lt_succ (Nat.mod_lt u (by norm_num))
  have hnonneg : (0 : ℚ) ≤ (u % 1000 : ℕ) := Nat.cast_nonneg _
  have hlow : ((1000 * s + u / 1000 : ℕ) : ℤ) - 1 ≤ ⌊heldMilliseconds s f⌋ := by
    refine Int.le_floor.mpr ?_
    rw [Int.cast_sub, Int.cast_natCast, Int.cast_one]
    linarith [hthousand.1, hnear.1]
  have hhigh : ⌊heldMilliseconds s f⌋ < ((1000 * s + u / 1000 : ℕ) : ℤ) + 2 := by
    refine Int.floor_lt.mpr ?_
    rw [Int.cast_add, Int.cast_natCast, Int.cast_ofNat]
    linarith [hthousand.2, hnear.2]
  rw [abs_le]
  omega

/-- What has to be shown for the seconds and the milliseconds of the float to be the exact ones. -/
lemma floors_eq (hseconds : 1000000 * 2 ^ s.log2 < (1000000 - u) * 2 ^ 53)
    (hreached : (1000 * s + u / 1000 : ℕ) ≤ heldMilliseconds s f)
    (hroom : (u % 1000 : ℕ) / 1000 + 1 / 2 ^ 44 + 2024 * (lead s / 2 ^ 53) < (1 : ℚ)) :
    ⌊heldSeconds s f⌋ = s ∧ ⌊heldMilliseconds s f⌋ = (1000 * s + u / 1000 : ℕ) := by
  have hpassed := h.heldMilliseconds_lt hroom
  refine ⟨(h.floor_heldSeconds_eq_iff hs).mpr hseconds, Int.floor_eq_iff.mpr ⟨?_, ?_⟩⟩
  · exact_mod_cast hreached
  · exact_mod_cast hpassed

/-- Within the room that the size of the seconds asks for, the seconds and the milliseconds of the
float are the exact ones. -/
lemma floors_eq_of_inside {k : ℕ} (hk : s < 2 ^ (33 + k)) (hlow : 2 ^ k ≤ 2 * (u % 1000))
    (hhigh : u % 1000 + 2 ^ k ≤ 1000) :
    ⌊heldSeconds s f⌋ = s ∧ ⌊heldMilliseconds s f⌋ = (1000 * s + u / 1000 : ℕ) := by
  have hk' : s < 2 ^ (32 + k + 1) := hk.trans_eq (by ring)
  have hlead : lead s ≤ 2 ^ 32 * 2 ^ k := (lead_le_of_lt hk').trans_eq (pow_add 2 32 k)
  have hone : (1 : ℚ) ≤ 2 ^ k := one_le_pow₀ one_le_two
  have hlow' : (2 : ℚ) ^ k ≤ 2 * (u % 1000 : ℕ) := by exact_mod_cast hlow
  have hhigh' : ((u % 1000 : ℕ) : ℚ) + 2 ^ k ≤ 1000 := by exact_mod_cast hhigh
  refine h.floors_eq hs ?_ ?_ (by linarith)
  · have hpow : 2 ^ s.log2 ≤ 2 ^ 32 * 2 ^ k := (two_pow_log2_le hk').trans_eq (pow_add 2 32 k)
    have hu := h.lt
    have hpos : 0 < 2 ^ k := Nat.two_pow_pos k
    omega
  · rcases eq_or_ne s 0 with hzero | hpos
    · -- without seconds, even one microsecond is far more than the rounding may take away
      have hpos : 0 < 2 ^ k := Nat.two_pow_pos k
      have hrest : (1 : ℚ) ≤ (u % 1000 : ℕ) := by exact_mod_cast (by omega : 1 ≤ u % 1000)
      have hlead : lead s = 1 := by rw [hzero]; rfl
      refine h.le_heldMilliseconds hs (c := 0) (by positivity) ?_
      rw [hlead]
      linarith
    · have hscale : lead s * 2 ^ 9 ≤ 1000 * heldSeconds s f := by
        linarith [lead_le hpos, h.le_heldSeconds hs, one_le_lead s]
      refine h.le_heldMilliseconds hs (le_half_placeOf 9 hscale) ?_
      linarith

/-- Where the milliseconds have ten digits more than the seconds, the last rounding makes good for
the first one. -/
lemma floors_eq_of_longer (hlow : 32 ≤ s) (hhigh : s < 2 ^ 33)
    (hlonger : 2 ^ (s.log2 + 10) ≤ 1000 * s) :
    ⌊heldSeconds s f⌋ = s ∧ ⌊heldMilliseconds s f⌋ = (1000 * s + u / 1000 : ℕ) := by
  have hlead : lead s ≤ 2 ^ 32 := lead_le_of_lt hhigh
  have hlarge : (32 : ℚ) ≤ lead s := by
    have hlog : 5 ≤ s.log2 := (Nat.le_log2 (by omega)).mpr hlow
    calc (32 : ℚ) = 2 ^ 5 := by norm_num
      _ ≤ lead s := pow_le_pow_right₀ one_le_two hlog
  have hnonneg : (0 : ℚ) ≤ (u % 1000 : ℕ) := Nat.cast_nonneg _
  have hrest : ((u % 1000 : ℕ) : ℚ) ≤ 999 := by
    exact_mod_cast Nat.le_of_lt_succ (Nat.mod_lt u (by norm_num))
  refine h.floors_eq hs ?_ ?_ (by linarith)
  · have hpow : 2 ^ s.log2 ≤ 2 ^ 32 := two_pow_log2_le hhigh
    have hu := h.lt
    omega
  · have hlonger' : lead s * 2 ^ 10 ≤ 1000 * s := by
      rw [lead, ← pow_add]
      exact_mod_cast hlonger
    have hscale : lead s * 2 ^ 10 ≤ 1000 * heldSeconds s f := by
      linarith [h.le_heldSeconds hs]
    refine h.le_heldMilliseconds hs (le_half_placeOf 10 hscale) ?_
    linarith

end

end IsFraction

end

/-! ### Agreement -/

/-- What the tokens of the seconds and of the milliseconds are read as, `s` seconds and `u`
microseconds after the start of Unix time.  Both are cut off after rounding.  They are the exact
ones, and agree with the token of the millisecond, unless the rounding crosses an integer: up to
`2 ^ 33` seconds it does so at most at a whole millisecond, and not even there once the milliseconds
have ten binary digits more than the seconds. -/
structure EpochTokens (s u : ℕ) (f : ℚ) (seconds milliseconds : ℤ) : Prop where
  seconds_eq : seconds = ⌊heldSeconds s f⌋
  milliseconds_eq : milliseconds = ⌊heldMilliseconds s f⌋
  seconds_near : seconds = s ∨ seconds = s + 1
  milliseconds_near : |milliseconds - (1000 * s + u / 1000 : ℕ)| ≤ 1
  seconds_exact_iff : seconds = s ↔ 1000000 * 2 ^ s.log2 < (1000000 - u) * 2 ^ 53
  sum_iff : milliseconds = 1000 * seconds + (u / 1000 : ℕ) ↔
    seconds = s ∧ milliseconds = (1000 * s + u / 1000 : ℕ)
  exact_of_inside : ∀ k, s < 2 ^ (33 + k) → 2 ^ k ≤ 2 * (u % 1000) → u % 1000 + 2 ^ k ≤ 1000 →
    seconds = s ∧ milliseconds = (1000 * s + u / 1000 : ℕ)
  exact_of_longer : 32 ≤ s → s < 2 ^ 33 → 2 ^ (s.log2 + 10) ≤ 1000 * s →
    seconds = s ∧ milliseconds = (1000 * s + u / 1000 : ℕ)

lemma IsFraction.epochTokens {s u : ℕ} {f : ℚ} (h : IsFraction u f) (hs : s < 2 ^ 38) :
    EpochTokens s u f ⌊heldSeconds s f⌋ ⌊heldMilliseconds s f⌋ where
  seconds_eq := rfl
  milliseconds_eq := rfl
  seconds_near := h.floor_heldSeconds_eq hs
  milliseconds_near := h.abs_floor_heldMilliseconds_sub_le hs
  seconds_exact_iff := h.floor_heldSeconds_eq_iff hs
  sum_iff := by
    have hseconds := h.floor_heldSeconds_eq hs
    have hmilliseconds := abs_le.mp (h.abs_floor_heldMilliseconds_sub_le hs)
    constructor
    · intro hsum
      omega
    · rintro ⟨hexact, hexact'⟩
      omega
  exact_of_inside _ := h.floors_eq_of_inside hs
  exact_of_longer := h.floors_eq_of_longer hs

end Sigil.Moment
