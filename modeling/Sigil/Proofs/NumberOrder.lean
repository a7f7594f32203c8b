/-
# The order of numbers

An exact value is a rational number, and the infinities lie at the ends of the line.  Numbers are
compared by where they lie there, so the order of numbers is a linear order; only what is not a
number lies nowhere and compares with nothing.
-/
import Mathlib
import Sigil.Number.Basic
import Sigil.Proofs.JsonNumbers

namespace Sigil

/-! ### Exact values -/

namespace Decimal.Binary

/-- The rational number that an exact value is. -/
def value (d : Binary) : ℚ := d.signed * 2 ^ d.exponent

/-- An exact value in units of a smaller power of two. -/
lemma value_eq_of_le (d : Binary) {e : ℤ} (h : e ≤ d.exponent) :
    d.value = ((d.signed * Int.pow 2 (d.exponent - e).toNat : ℤ) : ℚ) * 2 ^ e := by
  have hsplit : d.exponent = ((d.exponent - e).toNat : ℤ) + e := by omega
  rw [value, Int.cast_mul, mul_assoc]
  congr 1
  conv_lhs => rw [hsplit, zpow_add₀ two_ne_zero, zpow_natCast]
  push_cast [Int.pow_eq]
  rfl

lemma compare_eq_cmp (a b : Binary) : a.compare b = cmp a.value b.value := by
  have hmono : StrictMono fun m : ℤ => (m : ℚ) * 2 ^ min a.exponent b.exponent := fun m n h =>
    mul_lt_mul_of_pos_right (by exact_mod_cast h) (zpow_pos two_pos _)
  rw [value_eq_of_le a (min_le_left _ _), value_eq_of_le b (min_le_right _ _), compare,
    ← cmp_eq_compare]
  exact (hmono.cmp_map_eq _ _).symm

@[simp]
lemma signed_ofInt (n : ℤ) : (ofInt n).signed = n := by
  simp only [signed, ofInt, decide_eq_true_eq]
  split <;> omega

@[simp]
lemma value_ofInt (n : ℤ) : (ofInt n).value = n := by
  rw [value, signed_ofInt]
  exact mul_one _

end Decimal.Binary

/-! ### Places -/

namespace Number

/-- Where a place lies on the line with both ends. -/
def Place.rank : Place → WithBot (WithTop ℚ)
  | bottom => ⊥
  | Place.at d => ((d.value : WithTop ℚ) : WithBot (WithTop ℚ))
  | top => ((⊤ : WithTop ℚ) : WithBot (WithTop ℚ))

lemma Place.compare_eq_cmp (p q : Place) : p.compare q = cmp p.rank q.rank := by
  have hcoe : StrictMono fun x : ℚ => ((x : WithTop ℚ) : WithBot (WithTop ℚ)) :=
    WithBot.coe_strictMono.comp WithTop.coe_strictMono
  have hbelow (x : ℚ) : ((x : WithTop ℚ) : WithBot (WithTop ℚ)) < (⊤ : WithTop ℚ) :=
    WithBot.coe_lt_coe.mpr (WithTop.coe_lt_top x)
  have habove (x : WithTop ℚ) : (⊥ : WithBot (WithTop ℚ)) < x := WithBot.bot_lt_coe x
  symm
  cases p <;> cases q <;> simp only [Place.compare, rank]
  case bottom.bottom | top.top => exact cmp_self_eq_eq _
  case bottom.at | bottom.top => exact (cmp_eq_lt_iff _ _).mpr (habove _)
  case at.bottom | top.bottom => exact (cmp_eq_gt_iff _ _).mpr (habove _)
  case at.at a b => rw [Decimal.Binary.compare_eq_cmp, hcoe.cmp_map_eq]
  case at.top => exact (cmp_eq_lt_iff _ _).mpr (hbelow _)
  case top.at => exact (cmp_eq_gt_iff _ _).mpr (hbelow _)

/-- Where a number lies on the line; nowhere if it is not a number. -/
def rank? (a : Number) : Option (WithBot (WithTop ℚ)) := a.place?.map Place.rank

lemma compare?_eq (a b : Number) : compare? a b = Option.map₂ cmp a.rank? b.rank? := by
  unfold compare? rank?
  cases a.place? <;> cases b.place? <;> simp [Place.compare_eq_cmp]

@[simp]
lemma rank?_int (n : ℤ) : (int n).rank? = some (((n : ℚ) : WithTop ℚ) : WithBot (WithTop ℚ)) := by
  simp [rank?, place?, Place.rank, Decimal.Binary.value_ofInt]

/-- Only what is not a number lies nowhere. -/
lemma rank?_float_eq_none_iff {x : Float} : (float x).rank? = none ↔ x = Float.nan := by
  rw [rank?, Option.map_eq_none_iff, place?, Decimal.Binary.ofFloat?]
  by_cases hfinite : Decimal.Binary.isFiniteBits x.toBits
  · have hnan := Decimal.isNaN_of_isFiniteBits hfinite
    rw [Float.isNaN_eq_decide_eq_nan, decide_eq_false_iff_not] at hnan
    simp [hfinite, hnan]
  · simp [hfinite]

end Number

end Sigil
