/-
# Nearest values

What is kept of an exact value is a matter of the rational number alone: it is counted in units of
the last place, and the count is rounded to an integer, a half going to the even one.  Numbers that
lie strictly between the same two neighbours on a fine enough grid are rounded alike, so a quotient
may be cut off far below the last place as long as one more digit tells whether anything was cut
off.
-/
import Sigil.Proofs.FloatRounding

namespace Sigil.Decimal.Binary

/-! ### Halves to even -/

/-- The integer nearest to a rational number, a half going to the even one. -/
def halfEven (q : ℚ) : ℤ :=
  if Int.fract q < 1 / 2 then ⌊q⌋
  else if 1 / 2 < Int.fract q then ⌊q⌋ + 1
  else ⌊q⌋ + ⌊q⌋ % 2

section

variable {q : ℚ} {c : ℤ}

/-- An integer is reached from above half of one less, and from there only if it is even. -/
lemma le_halfEven_iff : c ≤ halfEven q ↔ (c : ℚ) - 1 / 2 < q ∨ (c : ℚ) - 1 / 2 = q ∧ Even c := by
  have hsplit : (⌊q⌋ : ℚ) + Int.fract q = q := Int.floor_add_fract q
  have hnonneg := Int.fract_nonneg q
  have hlt := Int.fract_lt_one q
  have hstep {n : ℤ} : (c : ℚ) < n + 1 ↔ c ≤ n := by
    rw [← Int.lt_add_one_iff]
    exact_mod_cast Iff.rfl
  unfold halfEven
  rcases lt_trichotomy (Int.fract q) (1 / 2) with h | h | h
  · rw [if_pos h]
    constructor
    · intro hle
      have := hstep.mpr hle
      have hle' : (c : ℚ) ≤ ⌊q⌋ := by exact_mod_cast hle
      exact .inl (by linarith)
    · rintro (hlow | ⟨heq, -⟩) <;> exact hstep.mp (by linarith)
  · -- at a half, the integer above is reached if it is even
    have hbelow : (c : ℚ) - 1 / 2 < q ↔ c ≤ ⌊q⌋ := by
      rw [← hstep]
      constructor <;> intro hlow <;> linarith
    have habove : (c : ℚ) - 1 / 2 = q ↔ c = ⌊q⌋ + 1 := by
      rw [← Int.cast_inj (α := ℚ), Int.cast_add, Int.cast_one]
      constructor <;> intro heq <;> linarith
    rw [if_neg h.not_lt, if_neg h.not_gt, hbelow, habove, Int.even_iff]
    omega
  · rw [if_neg h.not_gt, if_pos h]
    constructor
    · intro hle
      have hle' : (c : ℚ) ≤ ⌊q⌋ + 1 := by exact_mod_cast hle
      exact .inl (by linarith)
    · intro hor
      have hlow : (c : ℚ) < ((⌊q⌋ + 1 : ℤ) : ℚ) + 1 := by
        push_cast
        rcases hor with hlow | ⟨heq, -⟩ <;> linarith
      exact hstep.mp hlow

variable (q c)

@[simp]
lemma halfEven_intCast : halfEven (c : ℚ) = c := by
  simp [halfEven]

@[simp]
lemma halfEven_zero : halfEven 0 = 0 := by
  exact_mod_cast halfEven_intCast 0

lemma abs_halfEven_sub_le : |(halfEven q : ℚ) - q| ≤ 1 / 2 := by
  have hlow : (halfEven q : ℚ) - 1 / 2 ≤ q := by
    obtain h | ⟨h, -⟩ := le_halfEven_iff.mp (le_refl (halfEven q))
    · exact h.le
    · exact h.le
  have hhigh : q ≤ halfEven q + 1 / 2 := by
    by_contra hgt
    have hmore : halfEven q + 1 ≤ halfEven q := by
      refine le_halfEven_iff.mpr (.inl ?_)
      push_cast
      linarith
    omega
  rw [abs_le]
  constructor <;> linarith

/-- Shifting digits out rounds to an integer. -/
lemma roundShift_eq_halfEven (n s : ℕ) : (roundShift n s : ℤ) = halfEven (n / 2 ^ s) := by
  have hpos : (0 : ℚ) < 2 ^ s := by positivity
  have hfloor : ⌊(n : ℚ) / 2 ^ s⌋ = (n / 2 ^ s : ℕ) := by
    have hdiv := Rat.floor_intCast_div_natCast (n : ℤ) (2 ^ s)
    push_cast at hdiv ⊢
    exact hdiv
  have hfract : Int.fract ((n : ℚ) / 2 ^ s) = (n % 2 ^ s : ℕ) / 2 ^ s := by
    exact_mod_cast Int.fract_div_natCast_eq_div_natCast_mod (k := ℚ) (m := n) (n := 2 ^ s)
  have hbelow : Int.fract ((n : ℚ) / 2 ^ s) < 1 / 2 ↔ 2 * (n % 2 ^ s) < 2 ^ s := by
    rw [hfract, div_lt_div_iff₀ hpos two_pos, one_mul, mul_comm]
    exact_mod_cast Iff.rfl
  have habove : 1 / 2 < Int.fract ((n : ℚ) / 2 ^ s) ↔ 2 ^ s < 2 * (n % 2 ^ s) := by
    rw [hfract, div_lt_div_iff₀ two_pos hpos, one_mul, mul_comm]
    exact_mod_cast Iff.rfl
  rw [halfEven, roundShift_eq, hfloor]
  simp only [hbelow, habove]
  split_ifs <;> push_cast <;> rfl

end

/-! ### The last place -/

/-- The exponent of the last place that is kept of a rational number. -/
def placeOf (q : ℚ) : ℤ := max (Int.log 2 q - 52) (-1074)

/-- A rational number rounded to its last place. -/
def nearest (q : ℚ) : ℚ := halfEven (q / 2 ^ placeOf q) * 2 ^ placeOf q

lemma log_eq {q : ℚ} {k : ℤ} (hlow : 2 ^ k ≤ q) (hhigh : q < 2 ^ (k + 1)) : Int.log 2 q = k := by
  have hpos : 0 < q := (zpow_pos two_pos k).trans_le hlow
  have hle : k ≤ Int.log 2 q := (Int.zpow_le_iff_le_log one_lt_two hpos).mp hlow
  have hlt : Int.log 2 q < k + 1 := (Int.lt_zpow_iff_log_lt one_lt_two hpos).mp hhigh
  omega

lemma log_mul_zpow {m : ℕ} (hm : m ≠ 0) (e : ℤ) :
    Int.log 2 ((m : ℚ) * 2 ^ e) = bitLength m - 1 + e := by
  have hunit : (0 : ℚ) < 2 ^ e := zpow_pos two_pos e
  have hlength : 0 < bitLength m := lt_bitLength_iff.mpr (Nat.pos_of_ne_zero hm)
  have hlow : 2 ^ (bitLength m - 1) ≤ m := lt_bitLength_iff.mp (by omega)
  have hhigh : m < 2 ^ bitLength m := bitLength_le_iff.mp le_rfl
  have hbefore : ((bitLength m : ℤ) - 1) = (bitLength m - 1 : ℕ) := by omega
  have hafter : ((bitLength m : ℤ) - 1 + e + 1) = (bitLength m : ℕ) + e := by omega
  refine log_eq ?_ ?_
  · rw [hbefore, zpow_add₀ two_ne_zero, zpow_natCast]
    exact mul_le_mul_of_nonneg_right (by exact_mod_cast hlow) hunit.le
  · rw [hafter, zpow_add₀ two_ne_zero, zpow_natCast]
    exact mul_lt_mul_of_pos_right (by exact_mod_cast hhigh) hunit

variable {d : Binary}

lemma lastPlace_eq_placeOf (hd : d.significand ≠ 0) :
    d.lastPlace = placeOf (d.significand * 2 ^ d.exponent) := by
  rw [placeOf, log_mul_zpow hd, lastPlace]
  congr 1
  omega

/-- What is kept of an exact value is the rational number rounded to its last place. -/
lemma kept_mul_zpow_eq_nearest (d : Binary) :
    (d.kept : ℚ) * 2 ^ d.lastPlace = nearest (d.significand * 2 ^ d.exponent) := by
  rcases eq_or_ne d.significand 0 with hzero | hd
  · rw [d.kept_of_significand_eq_zero hzero, hzero]
    simp [nearest]
  · have hround : (d.kept : ℤ) = halfEven (d.significand * 2 ^ d.exponent / 2 ^ d.lastPlace) := by
      -- of the two shifts, to the left and to the right, one is by nothing
      set a := (d.exponent - d.lastPlace).toNat with ha
      set b := (d.lastPlace - d.exponent).toNat with hb
      have hscale : d.significand * 2 ^ d.exponent / 2 ^ d.lastPlace =
          ((d.significand * 2 ^ a : ℕ) : ℚ) / 2 ^ b := by
        have hdiff : (2 : ℚ) ^ d.exponent / 2 ^ d.lastPlace = 2 ^ a / 2 ^ b := by
          rw [← zpow_natCast, ← zpow_natCast, ← zpow_sub₀ two_ne_zero, ← zpow_sub₀ two_ne_zero]
          congr 1
          omega
        push_cast
        rw [mul_div_assoc, hdiff, mul_div_assoc]
      rw [hscale, ← roundShift_eq_halfEven, kept_eq]
    rw [nearest, ← lastPlace_eq_placeOf hd, ← hround]
    rfl

/-! ### Rounding to the last place -/

section

variable {q : ℚ}

lemma zpow_placeOf_pos (q : ℚ) : (0 : ℚ) < 2 ^ placeOf q := zpow_pos two_pos _

@[simp]
lemma nearest_zero : nearest 0 = 0 := by
  simp [nearest]

lemma abs_nearest_sub_le (q : ℚ) : |nearest q - q| ≤ 2 ^ placeOf q / 2 := by
  have hunit := zpow_placeOf_pos q
  set count := q / 2 ^ placeOf q with hcount
  have hq : q = count * 2 ^ placeOf q := by rw [hcount, div_mul_cancel₀ q hunit.ne']
  have hnearest : nearest q = halfEven count * 2 ^ placeOf q := rfl
  calc |nearest q - q| = |(halfEven count - count) * 2 ^ placeOf q| := by
        rw [sub_mul, ← hq, hnearest]
    _ = |(halfEven count : ℚ) - count| * 2 ^ placeOf q := by rw [abs_mul, abs_of_pos hunit]
    _ ≤ 1 / 2 * 2 ^ placeOf q := mul_le_mul_of_nonneg_right (abs_halfEven_sub_le _) hunit.le
    _ = 2 ^ placeOf q / 2 := by ring

/-- Numbers below a power of two, which are at least some of the smallest floats, have their last
place 53 places below it. -/
lemma placeOf_le {k : ℤ} (hpos : 0 < q) (h : q < 2 ^ k) (hk : -1021 ≤ k) : placeOf q ≤ k - 53 := by
  have hlog : Int.log 2 q < k := (Int.lt_zpow_iff_log_lt one_lt_two hpos).mp h
  unfold placeOf
  omega

lemma le_placeOf {k : ℤ} (h : 2 ^ k ≤ q) : k - 52 ≤ placeOf q := by
  have hlog : k ≤ Int.log 2 q :=
    (Int.zpow_le_iff_le_log one_lt_two ((zpow_pos two_pos k).trans_le h)).mp h
  unfold placeOf
  omega

/-- The last place of numbers below `2 ^ 52` is behind the point. -/
lemma placeOf_neg (h : q < 2 ^ 52) : placeOf q < 0 := by
  rcases le_or_gt q 0 with hzero | hpos
  · rw [placeOf, Int.log_of_right_le_zero _ hzero]
    decide
  · have hle : placeOf q ≤ (52 : ℕ) - 53 :=
      placeOf_le hpos (by rwa [zpow_natCast]) (by norm_num)
    omega

/-- What rounding adds or takes away from a number below a power of two. -/
lemma abs_nearest_sub_le_of_lt {k : ℤ} (hnonneg : 0 ≤ q) (h : q < 2 ^ k) (hk : -1021 ≤ k) :
    |nearest q - q| ≤ 2 ^ (k - 54) := by
  rcases hnonneg.eq_or_lt with rfl | hpos
  · simpa using (zpow_pos (two_pos (α := ℚ)) _).le
  · calc |nearest q - q| ≤ 2 ^ placeOf q / 2 := abs_nearest_sub_le q
      _ ≤ 2 ^ (k - 53) / 2 := by
        have := zpow_le_zpow_right₀ (one_le_two (α := ℚ)) (placeOf_le hpos h hk)
        linarith
      _ = 2 ^ (k - 54) := by
        rw [div_eq_mul_inv, ← zpow_sub_one₀ two_ne_zero]
        congr 1
        ring

/-- A multiple of the last place is reached from above half a place below it, and from there only if
it is an even one. -/
lemma mul_le_nearest_iff {c : ℤ} : (c : ℚ) * 2 ^ placeOf q ≤ nearest q ↔
    c * 2 ^ placeOf q - 2 ^ placeOf q / 2 < q ∨
      c * 2 ^ placeOf q - 2 ^ placeOf q / 2 = q ∧ Even c := by
  have hunit := zpow_placeOf_pos q
  have hhalf : (c : ℚ) * 2 ^ placeOf q - 2 ^ placeOf q / 2 = (c - 1 / 2) * 2 ^ placeOf q := by ring
  rw [nearest, mul_le_mul_iff_left₀ hunit, Int.cast_le, le_halfEven_iff, hhalf, lt_div_iff₀ hunit,
    eq_div_iff hunit.ne']

lemma nearest_nonneg (h : 0 ≤ q) : 0 ≤ nearest q := by
  have hunit := zpow_placeOf_pos q
  have hzero : ((0 : ℤ) : ℚ) * 2 ^ placeOf q ≤ nearest q := by
    refine mul_le_nearest_iff.mpr (.inl ?_)
    push_cast
    linarith
  simpa using hzero

/-- An integer is a whole number of units of a smaller place. -/
lemma mul_zpow_eq {g e : ℤ} (h : g ≤ e) (k : ℤ) :
    (k : ℚ) * 2 ^ e = (k * 2 ^ (e - g).toNat : ℤ) * 2 ^ g := by
  have hsplit : e = ((e - g).toNat : ℤ) + g := by omega
  push_cast
  conv_lhs => rw [hsplit, zpow_add₀ two_ne_zero, zpow_natCast]
  ring

/-- Where the last place is one behind the point, an integer is reached from half a place below
it. -/
lemma intCast_le_nearest_iff {n : ℤ} (h : placeOf q < 0) :
    (n : ℚ) ≤ nearest q ↔ n - 2 ^ placeOf q / 2 ≤ q := by
  have hunits : (n : ℚ) = (n * 2 ^ (0 - placeOf q).toNat : ℤ) * 2 ^ placeOf q := by
    rw [← mul_zpow_eq h.le, zpow_zero, mul_one]
  have heven : Even (n * 2 ^ (0 - placeOf q).toNat) := by
    refine Even.mul_left (Even.pow_of_ne_zero even_two ?_) n
    omega
  rw [hunits, mul_le_nearest_iff, le_iff_lt_or_eq]
  simp only [heven, and_true]

end

/-! ### Numbers between neighbours -/

/-- The multiples of a power of two do not tell the numbers apart. -/
def OnSameSide (g : ℤ) (p q : ℚ) : Prop := ∀ k : ℤ, cmp (k * 2 ^ g : ℚ) p = cmp (k * 2 ^ g : ℚ) q

section

variable {p q : ℚ} {g e : ℤ}

lemma OnSameSide.mono (h : OnSameSide g p q) (he : g ≤ e) : OnSameSide e p q := by
  intro k
  rw [mul_zpow_eq he]
  exact h _

lemma OnSameSide.log_eq (h : OnSameSide g p q) (hp : 0 < p) (hlog : g ≤ Int.log 2 p) :
    Int.log 2 q = Int.log 2 p := by
  have hpower {k : ℤ} (hk : g ≤ k) : cmp (2 ^ k : ℚ) p = cmp (2 ^ k : ℚ) q := by
    have hone := h.mono hk 1
    rwa [Int.cast_one, one_mul] at hone
  refine Binary.log_eq ?_ ?_
  · rw [← le_iff_le_of_cmp_eq_cmp (hpower hlog)]
    exact Int.zpow_log_le_self one_lt_two hp
  · rw [← not_le, ← le_iff_le_of_cmp_eq_cmp (hpower (by omega)), not_le]
    exact Int.lt_zpow_succ_log_self one_lt_two p

/-- Numbers that are not told apart by a grid finer than the last place are rounded alike. -/
lemma OnSameSide.nearest_eq (h : OnSameSide g p q) (hp : 0 < p) (hlog : g + 52 < Int.log 2 p) :
    nearest p = nearest q := by
  have hplace : placeOf q = placeOf p := by
    rw [placeOf, placeOf, h.log_eq hp (by omega)]
  have hfine : g ≤ placeOf p - 1 := by
    have hle : Int.log 2 p - 52 ≤ placeOf p := le_max_left _ _
    omega
  have hunit := zpow_placeOf_pos p
  -- half a unit of the last place is still a whole number of units of the grid
  have hhalf (c : ℤ) :
      ((c : ℚ) - 1 / 2) * 2 ^ placeOf p = (2 * c - 1 : ℤ) * 2 ^ (placeOf p - 1) := by
    rw [zpow_sub_one₀ two_ne_zero]
    push_cast
    ring
  have hcmp (c : ℤ) :
      cmp (c - 1 / 2 : ℚ) (p / 2 ^ placeOf p) = cmp (c - 1 / 2 : ℚ) (q / 2 ^ placeOf p) := by
    rw [← cmp_mul_pos_right hunit, ← cmp_mul_pos_right (b := (c - 1 / 2 : ℚ)) hunit,
      div_mul_cancel₀ p hunit.ne', div_mul_cancel₀ q hunit.ne', hhalf]
    exact h.mono hfine _
  have hcount : halfEven (p / 2 ^ placeOf p) = halfEven (q / 2 ^ placeOf p) := by
    refine eq_of_forall_le_iff fun c => ?_
    rw [le_halfEven_iff, le_halfEven_iff, lt_iff_lt_of_cmp_eq_cmp (hcmp c),
      eq_iff_eq_of_cmp_eq_cmp (hcmp c)]
  rw [nearest, nearest, hplace, hcount]

end

/-! ### Quotients -/

section

variable (negative : Bool) {n d : ℕ}

/-- The quotient is cut off where it has more than 65 binary digits. -/
lemma two_pow_le_quotient (hn : n ≠ 0) (hd : d ≠ 0) :
    2 ^ 65 ≤ n * 2 ^ (66 + bitLength d - bitLength n) / d := by
  have hdivisor : d < 2 ^ bitLength d := bitLength_le_iff.mp le_rfl
  have hlength := bitLength_mul_pow hn (66 + bitLength d - bitLength n)
  have hscaled : 2 ^ (65 + bitLength d) ≤ n * 2 ^ (66 + bitLength d - bitLength n) :=
    lt_bitLength_iff.mp (by omega)
  rw [Nat.le_div_iff_mul_le (Nat.pos_of_ne_zero hd)]
  calc 2 ^ 65 * d ≤ 2 ^ 65 * 2 ^ bitLength d := Nat.mul_le_mul_left _ hdivisor.le
    _ = 2 ^ (65 + bitLength d) := (pow_add 2 65 _).symm
    _ ≤ _ := hscaled

lemma ofQuotient_eq (n d : ℕ) : ofQuotient negative n d =
    let shift := 66 + bitLength d - bitLength n
    ⟨negative, 2 * (n * 2 ^ shift / d) + if n * 2 ^ shift % d = 0 then 0 else 1,
      -(shift : ℤ) - 1⟩ := by
  simp only [ofQuotient, Nat.pow_eq, beq_iff_eq]
  split <;> rfl

/-- No integer tells two numbers apart that lie strictly between the same neighbours. -/
lemma cmp_intCast_eq {p q : ℚ} {l : ℤ} (hp : l < p ∧ p < l + 1) (hq : l < q ∧ q < l + 1) (k : ℤ) :
    cmp (k : ℚ) p = cmp (k : ℚ) q := by
  rcases le_or_gt k l with hle | hlt
  · have hle' : (k : ℚ) ≤ l := by exact_mod_cast hle
    rw [(cmp_eq_lt_iff _ _).mpr (hle'.trans_lt hp.1),
      (cmp_eq_lt_iff _ _).mpr (hle'.trans_lt hq.1)]
  · have hge : (l : ℚ) + 1 ≤ k := by exact_mod_cast hlt
    rw [(cmp_eq_gt_iff _ _).mpr (hp.2.trans_le hge),
      (cmp_eq_gt_iff _ _).mpr (hq.2.trans_le hge)]

/-- A quotient and what stands for it lie on the same side of every number that rounding asks
for. -/
lemma onSameSide_ofQuotient (n : ℕ) (hd : d ≠ 0) :
    OnSameSide (-(66 + bitLength d - bitLength n : ℕ))
      ((ofQuotient negative n d).significand * 2 ^ (ofQuotient negative n d).exponent)
      ((n : ℚ) / d) := by
  rw [ofQuotient_eq]
  dsimp only
  set shift := 66 + bitLength d - bitLength n
  set l := n * 2 ^ shift / d
  set r := n * 2 ^ shift % d
  have hunit : (0 : ℚ) < 2 ^ shift := by positivity
  have hd' : (0 : ℚ) < d := by exact_mod_cast Nat.pos_of_ne_zero hd
  have hscaled : (n : ℚ) / d * 2 ^ shift = l + r / d := by
    have hdivmod : (d : ℚ) * l + r = n * 2 ^ shift := by
      exact_mod_cast Nat.div_add_mod (n * 2 ^ shift) d
    field_simp
    linarith
  have hcut : ((2 * l + if r = 0 then 0 else 1 : ℕ) : ℚ) * 2 ^ (-(shift : ℤ) - 1) * 2 ^ shift =
      l + if r = 0 then 0 else 1 / 2 := by
    rw [zpow_sub_one₀ two_ne_zero, zpow_neg, zpow_natCast]
    field_simp
    split <;> push_cast <;> ring
  intro k
  rw [← cmp_mul_pos_right hunit, ← cmp_mul_pos_right (c := (n : ℚ) / d) hunit, hscaled, hcut,
    zpow_neg, zpow_natCast, inv_mul_cancel_right₀ hunit.ne']
  by_cases hr : r = 0
  · simp [hr]
  · -- both lie strictly between the quotient that is cut off and the next one
    have hr' : (0 : ℚ) < r := by exact_mod_cast Nat.pos_of_ne_zero hr
    have hlt : (r : ℚ) < d := by exact_mod_cast Nat.mod_lt _ (Nat.pos_of_ne_zero hd)
    have hrest : 0 < (r : ℚ) / d ∧ (r : ℚ) / d < 1 := ⟨div_pos hr' hd', (div_lt_one hd').mpr hlt⟩
    rw [if_neg hr]
    refine cmp_intCast_eq (l := l) ?_ ?_ k
    · rw [Int.cast_natCast]
      constructor <;> linarith
    · rw [Int.cast_natCast]
      constructor <;> linarith [hrest.1, hrest.2]

/-- A quotient is rounded as if it were not cut off. -/
lemma nearest_ofQuotient (n : ℕ) (hd : d ≠ 0) :
    nearest ((ofQuotient negative n d).significand * 2 ^ (ofQuotient negative n d).exponent) =
      nearest (n / d) := by
  rcases eq_or_ne n 0 with rfl | hn
  · simp [ofQuotient_eq]
  have hlow := two_pow_le_quotient hn hd
  have hsame := onSameSide_ofQuotient negative n hd
  rw [ofQuotient_eq] at hsame ⊢
  dsimp only at hsame ⊢
  -- the grid is more than ten places finer than the last place
  have hsignificand : 2 ^ 66 ≤ 2 * (n * 2 ^ (66 + bitLength d - bitLength n) / d) +
      if n * 2 ^ (66 + bitLength d - bitLength n) % d = 0 then 0 else 1 := by omega
  have hlength := lt_bitLength_iff.mpr hsignificand
  refine hsame.nearest_eq (mul_pos ?_ (zpow_pos two_pos _)) ?_
  · exact_mod_cast (by norm_num : 0 < 2 ^ 66).trans_le hsignificand
  · rw [log_mul_zpow (by omega)]
    omega

end

end Sigil.Decimal.Binary
