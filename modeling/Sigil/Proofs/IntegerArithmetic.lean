/-
# Arithmetic of integers

Sums, differences, products, extrema, absolute values and the roundings up and down stay among the
integers, and are exact at any size.  The rounding to the nearest integer and the remainder go
through floats: integers that are no floats are rounded first, integers beyond the range of floats
are refused, and of the floats the odd ones between `2 ^ 52` and `2 ^ 53` are rounded up to an even
one.
-/
import Sigil.Library.Arithmetic
import Sigil.Proofs.IntegerArguments
import Sigil.Proofs.IntegralFloats

namespace Sigil

open Decimal.Binary

namespace Number

lemma lt_int (m n : ℤ) : lt (int m) (int n) = decide (m < n) := by
  have hmono : StrictMono fun k : ℤ => (((k : ℚ) : WithTop ℚ) : WithBot (WithTop ℚ)) :=
    WithBot.coe_strictMono.comp (WithTop.coe_strictMono.comp Int.cast_strictMono)
  rw [lt, compare?_eq, rank?_int, rank?_int, Option.map₂_some_some, hmono.cmp_map_eq]
  rcases lt_trichotomy m n with h | h | h <;> simp [cmp, cmpUsing, h, h.not_gt]

end Number

namespace Library

/-! ### Runs over the arguments -/

section

variable {vs : List Value} {ns : List ℤ} (hvs : List.Forall₂ GivesInteger vs ns)

include hvs

/-- A run that combines integers to integers is a fold. -/
lemma accumulate_eq (combine : Number → Number → Except Number.Problem Number) {f : ℤ → ℤ → ℤ}
    (hcombine : ∀ m n, combine (.int m) (.int n) = .ok (.int (f m n))) (m : ℤ) :
    accumulate combine (.int m) vs = .ok (.int (ns.foldl f m)) := by
  induction hvs generalizing m with
  | nil => rfl
  | cons hv _ ih =>
      rw [accumulate, hv.number_eq]
      simp only [bind, Except.bind, lift, hcombine, Except.mapError]
      exact ih (f m _)

lemma sum_eq : sum vs = .ok (.int ns.sum) := by
  rw [sum, accumulate_eq hvs Number.add (fun _ _ => rfl), List.sum_eq_foldl]
  rfl

variable {v : Value} {m : ℤ} (hv : GivesInteger v m)

include hv

lemma difference_eq : difference (v :: vs) = .ok (.int (m - ns.sum)) := by
  have hfold (m : ℤ) : ns.foldl (fun a b => a - b) m = m - ns.sum := by
    clear hvs hv
    induction ns generalizing m with
    | nil => simp
    | cons n ns ih => rw [List.foldl_cons, ih, List.sum_cons, sub_sub]
  have hrun := accumulate_eq hvs Number.sub (fun _ _ => rfl) m
  rw [hfold] at hrun
  simp only [difference, hv.number_eq, bind, Except.bind, hrun]
  rfl

/-- The best of integers is a fold of the better of two. -/
lemma extremum_eq (name : String) {better : Number → Number → Bool} {f : ℤ → ℤ → ℤ}
    (hbetter : ∀ m n, f m n = if better (.int n) (.int m) then n else m) :
    extremum name better (v :: vs) = .ok (.int (ns.foldl f m)) := by
  have hrun := accumulate_eq hvs (f := f)
    (fun best x => .ok (if better x best then x else best))
    (fun m n => by rw [hbetter]; split <;> rfl) m
  simp only [extremum, hv.number_eq, bind, Except.bind, hrun]
  rfl

lemma maximum_eq : maximum (v :: vs) = .ok (.int (ns.foldl max m)) := by
  refine extremum_eq hvs hv "max" fun m n => ?_
  rw [Number.lt_int, max_def_lt]
  simp

lemma minimum_eq : minimum (v :: vs) = .ok (.int (ns.foldl min m)) := by
  refine extremum_eq hvs hv "min" fun m n => ?_
  rw [Number.lt_int, min_comm, min_def_lt]
  simp

end

/-! ### One and two arguments -/

section

variable {v w : Value} {m n : ℤ} (hv : GivesInteger v m) (hw : GivesInteger w n)

include hv

lemma absolute_eq : absolute v = .ok (.int |m|) := by
  rw [absolute, hv.number_eq, Int.abs_eq_natAbs]
  rfl

lemma ceiling_eq : ceiling v = .ok (.int m) := by
  rw [ceiling, hv.number_eq]
  rfl

lemma flooring_eq : flooring v = .ok (.int m) := by
  rw [flooring, hv.number_eq]
  rfl

lemma rounded_of_fits (h : FitsFloat m) :
    rounded v = .ok (.int (halfUp (nearestInteger m))) := by
  rw [rounded, hv.number_eq]
  rcases eq_or_ne m 0 with rfl | hzero
  · -- a zero has no leading place, so its sum with a half is computed
    rfl
  · obtain ⟨x, d, hx, hd, hvalue⟩ := Number.exists_floatOfInt h
    obtain ⟨e, he, hfloor⟩ := Decimal.Binary.exists_ofFloat?_add_half hd hvalue
      (nearestInteger_ne_zero hzero) (nearestInteger_nearestInteger m) h
    simp only [bind, Except.bind, lift, Number.add, Number.toFloat, hx, Except.mapError,
      Number.floor, Number.finite, he, Except.map, hfloor, pure, Except.pure]

lemma rounded_of_not_fits (h : ¬ FitsFloat m) :
    rounded v = .error Number.Problem.intTooLarge.fault := by
  rw [rounded, hv.number_eq]
  simp only [bind, Except.bind, lift, Number.add, Number.toFloat, Number.floatOfInt_eq_error h,
    Except.mapError]

include hw

lemma product_eq : product v w = .ok (.int (m * n)) := by
  rw [product, hv.number_eq, hw.number_eq]
  rfl

lemma remainder_of_fits (hn : n ≠ 0) (hm' : FitsFloat m) (hn' : FitsFloat n) :
    remainder v w = .ok (.int ((nearestInteger m).tmod (nearestInteger n))) := by
  obtain ⟨x, a, hx, ha, hxvalue⟩ := Number.exists_floatOfInt hm'
  obtain ⟨y, b, hy, hb, hyvalue⟩ := Number.exists_floatOfInt hn'
  obtain ⟨z, d, hz, hd, hzvalue⟩ :=
    Number.exists_floatRemainder ha hb hxvalue hyvalue (nearestInteger_ne_zero hn)
  rw [remainder, hv.number_eq, hw.number_eq]
  simp only [bind, Except.bind, lift, Number.modulus, Number.toFloat, hx, hy, hz, Number.finite, hd,
    Except.map, truncate_eq hzvalue, Except.mapError, pure, Except.pure, Number.toValue]

lemma remainder_of_not_fits (h : ¬ (FitsFloat m ∧ FitsFloat n)) :
    remainder v w = .error Number.Problem.intTooLarge.fault := by
  rw [remainder, hv.number_eq, hw.number_eq]
  by_cases hm : FitsFloat m
  · obtain ⟨x, d, hx, -⟩ := Number.exists_floatOfInt hm
    simp only [bind, Except.bind, lift, Number.modulus, Number.toFloat, hx,
      Number.floatOfInt_eq_error fun hn => h ⟨hm, hn⟩, Except.mapError]
  · simp only [bind, Except.bind, lift, Number.modulus, Number.toFloat,
      Number.floatOfInt_eq_error hm, Except.mapError]

end

/-- **Integer arithmetic.**  Sums, differences, products, absolute values, extrema and the roundings
up and down are exact.  The rounding to the nearest integer gives the integer back exactly if it is
a float and not an odd one between `2 ^ 52` and `2 ^ 53`; the remainder is exact for integers that
are floats, as those of up to 53 binary digits are, and otherwise that of the nearest floats.  What
is beyond the floats is refused by both. -/
theorem integer_arithmetic {v w : Value} {vs : List Value} {m n : ℤ} {ns : List ℤ}
    (hv : GivesInteger v m) (hw : GivesInteger w n) (hvs : List.Forall₂ GivesInteger vs ns) :
    sum vs = .ok (.int ns.sum) ∧
    difference (v :: vs) = .ok (.int (m - ns.sum)) ∧
    product v w = .ok (.int (m * n)) ∧
    absolute v = .ok (.int |m|) ∧
    maximum (v :: vs) = .ok (.int (ns.foldl max m)) ∧
    minimum (v :: vs) = .ok (.int (ns.foldl min m)) ∧
    ceiling v = .ok (.int m) ∧ flooring v = .ok (.int m) ∧
    (rounded v = .ok (.int m) ↔ IsFloat m ∧ (m.natAbs ≤ 2 ^ 52 ∨ 2 ∣ m)) ∧
    (FitsFloat m → rounded v = .ok (.int (halfUp (nearestInteger m)))) ∧
    (¬ FitsFloat m → rounded v = .error Number.Problem.intTooLarge.fault) ∧
    (n ≠ 0 → IsFloat m → IsFloat n → remainder v w = .ok (.int (m - n * m.tdiv n))) ∧
    (n ≠ 0 → FitsFloat m → FitsFloat n →
      remainder v w = .ok (.int ((nearestInteger m).tmod (nearestInteger n)))) ∧
    (¬ (FitsFloat m ∧ FitsFloat n) → remainder v w = .error Number.Problem.intTooLarge.fault) ∧
    (FitsFloat m → IsNearestFloat m (nearestInteger m)) ∧
    (m.natAbs ≤ 2 ^ 53 → IsFloat m) := by
  refine ⟨sum_eq hvs, difference_eq hvs hv, product_eq hv hw, absolute_eq hv, maximum_eq hvs hv,
    minimum_eq hvs hv, ceiling_eq hv, flooring_eq hv, ?_, rounded_of_fits hv,
    rounded_of_not_fits hv, fun hn hm' hn' => ?_, remainder_of_fits hv hw,
    remainder_of_not_fits hv hw, isNearestFloat_nearestInteger, isFloat_of_le⟩
  · by_cases hm : FitsFloat m
    · rw [rounded_of_fits hv hm, Except.ok.injEq, Value.int.injEq, halfUp_nearestInteger_eq_iff,
        isFloat_iff, and_iff_right hm]
    · rw [rounded_of_not_fits hv hm]
      exact iff_of_false nofun fun h => hm (isFloat_iff.mp h.1).1
  · obtain ⟨hfits, hself⟩ := isFloat_iff.mp hm'
    obtain ⟨hfits', hself'⟩ := isFloat_iff.mp hn'
    rw [remainder_of_fits hv hw hn hfits hfits', hself, hself', Int.tmod_def]

/-- Seventeen as a text, minus five, and two more arguments. -/
theorem integer_arithmetic_seventeen :
    sum [.int 30, .text (Decimal.ofInt (-4))] = .ok (.int 26) ∧
      difference [.text (Decimal.ofInt 17), .int 30, .text (Decimal.ofInt (-4))] = .ok (.int (-9)) ∧
      maximum [.text (Decimal.ofInt 17), .int 30, .text (Decimal.ofInt (-4))] = .ok (.int 30) ∧
      rounded (.text (Decimal.ofInt 17)) = .ok (.int 17) ∧
      remainder (.text (Decimal.ofInt 17)) (.int (-5)) = .ok (.int 2) := by
  have hv : GivesInteger (.text (Decimal.ofInt 17)) 17 :=
    .decimal (Decimal.natAbs_lt_of_lt (by decide))
  have hw : GivesInteger (.int (-5)) (-5) := .whole _
  have hvs : List.Forall₂ GivesInteger [.int 30, .text (Decimal.ofInt (-4))] [30, -4] :=
    .cons (.whole _) (.cons (.decimal (Decimal.natAbs_lt_of_lt (by decide))) .nil)
  obtain ⟨hsum, hdifference, -, -, hmaximum, -, -, -, hrounded, -, -, hremainder, -, -, -,
    hfloat⟩ := integer_arithmetic hv hw hvs
  have hdivisor : IsFloat (-5) := isFloat_of_le (by decide)
  exact ⟨hsum, hdifference, hmaximum, hrounded.mpr ⟨hfloat (by decide), .inl (by decide)⟩,
    hremainder (by decide) (hfloat (by decide)) hdivisor⟩

/-- A large odd integer is rounded to an even one, and one that is no float loses its last digit
before the remainder is taken. -/
theorem large_integers_are_rounded :
    rounded (.int 4503599627370497) = .ok (.int 4503599627370498) ∧
      remainder (.int 9007199254740993) (.int 2) = .ok (.int 0) ∧
      ¬ (∀ m : ℤ, rounded (.int m) = .ok (.int m)) ∧
      ¬ ∀ m n : ℤ, n ≠ 0 → remainder (.int m) (.int n) = .ok (.int (m - n * m.tdiv n)) := by
  have hround : rounded (.int 4503599627370497) = .ok (.int 4503599627370498) := by
    obtain ⟨hfits, hself⟩ := fits_of_le (by decide : Int.natAbs 4503599627370497 ≤ 2 ^ 53)
    rw [rounded_of_fits (.whole _) hfits, hself]
    rfl
  have hremainder : remainder (.int 9007199254740993) (.int 2) = .ok (.int 0) := by
    have hnear : nearestInteger 9007199254740993 = 9007199254740992 := by decide +kernel
    obtain ⟨hfits, hself⟩ := fits_of_le (by decide : Int.natAbs 2 ≤ 2 ^ 53)
    have hfits' : FitsFloat 9007199254740993 := by
      rw [FitsFloat, hnear]
      exact (fits_of_le (by decide : Int.natAbs 9007199254740992 ≤ 2 ^ 53)).1
    rw [remainder_of_fits (.whole _) (.whole _) (by decide) hfits' hfits, hnear, hself]
    rfl
  refine ⟨hround, hremainder, fun hall => ?_, fun hall => ?_⟩
  · have hboth := hround.symm.trans (hall 4503599627370497)
    rw [Except.ok.injEq, Value.int.injEq] at hboth
    exact absurd hboth (by decide)
  · have hboth := hremainder.symm.trans (hall 9007199254740993 2 (by decide))
    rw [Except.ok.injEq, Value.int.injEq] at hboth
    exact absurd hboth (by decide)

end Library

end Sigil
