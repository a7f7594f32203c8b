/-
# Unix time as a float

The tokens of Unix time go through a float that holds the seconds with their fraction; the token of
the millisecond is taken from the microseconds as they are.  From the start of Unix time to the end
of the calendar, every rounding on the way is one of numbers that are not negative and far from the
ends of the range of floats.
-/
import Sigil.Proofs.DayNumbers
import Sigil.Proofs.FloatProducts
import Sigil.Proofs.MomentFormats
import Sigil.Proofs.RoundedSeconds

namespace Sigil.Moment

open Sigil.Decimal hiding ofInt
open Sigil.Decimal.Binary
open Sigil.Json (isAsciiDigit)

/-! ### Moments -/

/-- The fraction of a second that is added to the seconds: without an offset it is rounded
before. -/
def heldFraction (u : ℕ) : Option ℤ → ℚ
  | none => nearest (u / 1000000)
  | some _ => u / 1000000

lemma isFraction_heldFraction {u : ℕ} (hu : u < 1000000) (offset : Option ℤ) :
    IsFraction u (heldFraction u offset) := by
  cases offset with
  | none => exact isFraction_nearest hu
  | some _ => exact isFraction_exact hu

/-- The integer part of a float that is not negative is cut off downwards. -/
lemma integerPart_eq {x : Float} {q : ℚ} (h : HasValue x q) : integerPart x = ⌊q⌋ := by
  obtain ⟨d, hd, hneg, rfl⟩ := h
  have htruncate : d.truncate = d.floor := by
    unfold truncate floor
    split
    · rfl
    · rw [Int.tdiv_eq_ediv_of_nonneg (signed_nonneg hneg),
        Int.fdiv_eq_ediv_of_nonneg _ (by rw [Int.pow_eq]; positivity)]
  rw [integerPart, hd, ← floor_eq, ← htruncate]
  rfl

section

variable {m : Moment} {offset : Option ℤ} {s : ℕ}

/-- From the start of Unix time to the end of the calendar, the seconds have at most 38 binary
digits. -/
lemma exists_unixSeconds (hyear : 1970 ≤ m.day.year) : ∃ s : ℕ, m.unixSeconds = s ∧ s < 2 ^ 38 := by
  have hfirst : Day.daysBeforeYear 1970 = 719162 := rfl
  have hlast : Day.lastNumber = 3652059 := rfl
  have hbefore := Day.daysBeforeYear_mono (by norm_num) hyear
  have hday := m.day.day_pos
  have hnumber := m.day.number_eq
  have hend := m.day.number_le_lastNumber
  have hclock := m.clock.seconds_lt
  rw [unixSeconds, epochDay]
  refine ⟨(m.day.number - 719163) * 86400 + m.clock.seconds, ?_, ?_⟩
  · push_cast
    omega
  · omega

/-- The float that the seconds become. -/
lemma exists_unixTime (hutc : offset = none ∨ offset = some 0)
    (hs : m.unixSeconds = s) (hlt : s < 2 ^ 38) : ∃ t, m.unixTime offset = .ok t ∧
      HasValue t (heldSeconds s (heldFraction m.clock.microsecond offset)) := by
  have hfraction := isFraction_heldFraction m.clock.microsecond_lt offset
  have hlt' : (s : ℚ) < 2 ^ 38 := by exact_mod_cast hlt
  have hrange : heldSeconds s (heldFraction m.clock.microsecond offset) < 2 ^ (1024 : ℤ) :=
    lt_range (by linarith [hfraction.heldSeconds_lt hlt])
  obtain rfl | rfl := hutc
  · -- without an offset, the fraction is a float of its own, and the sum is rounded
    have hnumber : ¬ m.day.number ≤ 1 := by
      have hclock := m.clock.seconds_lt
      rw [unixSeconds, epochDay] at hs
      omega
    have hwhole : HasValue (ofInt m.unixSeconds).toFloat s := by
      rw [hs]
      exact hasValue_ofInt (hlt.trans (by norm_num))
    have hpart : HasValue (ofQuotient false m.clock.microsecond 1000000).toFloat
        (heldFraction m.clock.microsecond none) := by
      have hone := hfraction.lt_one
      have hquotient := hasValue_ofQuotient (m := m.clock.microsecond) (n := 1000000) (by norm_num)
      rw [Nat.cast_ofNat] at hquotient
      exact hquotient (lt_range (hone.le.trans (by norm_num)))
    exact ⟨_, if_neg hnumber, hwhole.add hpart hrange⟩
  · -- with an offset, all microseconds are divided at once, and only the quotient is rounded
    have htotal : m.unixSeconds * 1000000 + m.clock.microsecond - 0 =
        (s * 1000000 + m.clock.microsecond : ℕ) := by
      rw [hs]
      push_cast
      ring
    have hexact : ((s * 1000000 + m.clock.microsecond : ℕ) : ℚ) / (1000000 : ℕ) =
        s + heldFraction m.clock.microsecond (some 0) := by
      rw [heldFraction]
      push_cast
      ring
    have hquotient := hasValue_ofQuotient (m := s * 1000000 + m.clock.microsecond) (n := 1000000)
      (by norm_num)
    rw [hexact] at hquotient
    refine ⟨_, rfl, ?_⟩
    rw [htotal, decide_eq_false (not_lt.mpr (Int.natCast_nonneg _)), Int.natAbs_natCast]
    exact hquotient hrange

/-! ### Tokens -/

/-- The moment is written in the format as a text that is read as the integer. -/
def ReadsAs (m : Moment) (offset : Option ℤ) (fmt : String) (n : ℤ) : Prop :=
  ∃ text, m.format offset fmt = .ok text ∧ Decimal.readInt text = .ok n

/-- A format that is a single part. -/
lemma format_part {fmt text : String} {p : Part} (hpieces : pieces fmt.toList = [.part p])
    (hrender : p.render m offset = .ok text) : m.format offset fmt = .ok text := by
  have hpart : (Piece.part p).render m offset = .ok text := hrender
  rw [format, hpieces, List.mapM_cons, hpart]
  simp [String.join]

/-- The token of the millisecond. -/
lemma readsAs_millisecond (m : Moment) (offset : Option ℤ) :
    ReadsAs m offset "SSS" (m.clock.microsecond / 1000 : ℕ) := by
  have hlt : m.clock.microsecond / 1000 < 10 ^ 3 := by
    have := m.clock.microsecond_lt
    omega
  refine ⟨_, format_part (p := .millisecond) (by decide) rfl, ?_⟩
  set digits := padZeros 3 (natDigits (m.clock.microsecond / 1000)) with hpadded
  have hdigits : ∀ c ∈ digits, isAsciiDigit c := fun c => Json.isAsciiDigit_of_mem_padZeros
  have hlength : digits.length = 3 := by
    have hle := Nat.toDigits_length 10 _ _ (by norm_num) hlt
    rw [hpadded, padZeros, List.length_append, List.length_replicate, natDigits]
    omega
  have hne : digits ≠ [] := by
    rintro hnil
    rw [hnil] at hlength
    cases hlength
  have hsign : takeSign (stripNumeral (String.ofList digits).toList) = (false, digits) := by
    rw [String.toList_ofList, stripNumeral_eq_self fun c hc =>
      isBlank_of_isAsciiDigit (hdigits c hc), takeSign_of_forall hdigits]
  have hshort : ¬ digitLimit < digits.length := by
    rw [hlength]
    decide
  rw [paddedNat, readInt_of_takeSign hsign hne hdigits, if_neg hshort, hpadded,
    digitsValue_padZeros]
  rfl

/-- An integer that is written as it is. -/
lemma readInt_ofInt_of_le {n : ℤ} (h : n.natAbs ≤ 2 ^ 64) :
    Decimal.readInt (Decimal.ofInt n) = .ok n := by
  refine readInt_ofInt (h.trans_lt ?_)
  calc 2 ^ 64 < 10 ^ 20 := by norm_num
    _ ≤ 10 ^ digitLimit := Nat.pow_le_pow_right (by norm_num) (by decide)

/-- The token of the seconds. -/
lemma readsAs_unixSeconds {t : Float} {q : ℚ} (htime : m.unixTime offset = .ok t)
    (ht : HasValue t q) (hbound : ⌊q⌋.natAbs ≤ 2 ^ 64) : ReadsAs m offset "X" ⌊q⌋ := by
  refine ⟨Decimal.ofInt ⌊q⌋, format_part (p := .unixSeconds) (by decide) ?_,
    readInt_ofInt_of_le hbound⟩
  rw [Part.render, htime, ← integerPart_eq ht]
  rfl

/-- The token of the milliseconds. -/
lemma readsAs_unixMilliseconds {t : Float} {q : ℚ} (htime : m.unixTime offset = .ok t)
    (ht : HasValue (t * 1000) q) (hbound : ⌊q⌋.natAbs ≤ 2 ^ 64) : ReadsAs m offset "x" ⌊q⌋ := by
  refine ⟨Decimal.ofInt ⌊q⌋, format_part (p := .unixMilliseconds) (by decide) ?_,
    readInt_ofInt_of_le hbound⟩
  rw [Part.render, htime, ← integerPart_eq ht]
  rfl

end

/-- From the start of Unix time to the end of the calendar, in universal time, the tokens of the
seconds, the milliseconds and the millisecond are integers.  The first two are those of a float, and
the sum agrees with the third exactly where both are the exact ones. -/
theorem epoch_tokens (m : Moment) {offset : Option ℤ} (hutc : offset = none ∨ offset = some 0)
    (hyear : 1970 ≤ m.day.year) :
    ∃ (s : ℕ) (seconds milliseconds : ℤ), m.unixSeconds = s ∧
      ReadsAs m offset "X" seconds ∧ ReadsAs m offset "x" milliseconds ∧
      ReadsAs m offset "SSS" (m.clock.microsecond / 1000 : ℕ) ∧
      EpochTokens s m.clock.microsecond (heldFraction m.clock.microsecond offset) seconds
        milliseconds := by
  obtain ⟨s, hs, hlt⟩ := exists_unixSeconds hyear
  have hmicrosecond := m.clock.microsecond_lt
  have hfraction := isFraction_heldFraction hmicrosecond offset
  obtain ⟨t, htime, ht⟩ := exists_unixTime hutc hs hlt
  have htokens := hfraction.epochTokens hlt
  have hseconds := htokens.seconds_near
  have hmilliseconds := abs_le.mp htokens.milliseconds_near
  have hrange : heldMilliseconds s (heldFraction m.clock.microsecond offset) ≤ 2 ^ 64 := by
    have hlead := lead_le_of_lt hlt
    have hlt' : (s : ℚ) < 2 ^ 38 := by exact_mod_cast hlt
    have hheld := hfraction.heldSeconds_lt hlt
    have hnear := (abs_le.mp (hfraction.abs_heldMilliseconds_sub_le s)).2
    linarith
  have hproduct := ht.mul_thousand (lt_range hrange)
  refine ⟨s, _, _, hs, ?_, ?_, readsAs_millisecond m offset, htokens⟩
  · exact readsAs_unixSeconds htime ht (by omega)
  · exact readsAs_unixMilliseconds htime hproduct (by omega)

/-- A whole millisecond of the year 2024. -/
theorem epoch_tokens_recent :
    let m : Moment :=
      ⟨⟨2024, 2, 29, by decide, by decide, by decide, by decide, by decide, by decide⟩,
      ⟨13, 5, 9, 123000, by decide, by decide, by decide, by decide⟩⟩
    1970 ≤ m.day.year ∧ ReadsAs m none "X" 1709211909 ∧ ReadsAs m none "x" 1709211909123 ∧
      ReadsAs m none "SSS" 123 := by
  intro m
  obtain ⟨s, seconds, milliseconds, hs, hseconds, hmilliseconds, hmillisecond, htokens⟩ :=
    epoch_tokens m (.inl rfl) (by decide)
  have hexact : m.unixSeconds = (1709211909 : ℕ) := by decide
  obtain rfl : s = 1709211909 := by exact_mod_cast hs.symm.trans hexact
  obtain ⟨rfl, rfl⟩ := htokens.exact_of_longer (by norm_num) (by norm_num) (by decide)
  have hpart : m.clock.microsecond / 1000 = 123 := by decide
  rw [hpart] at hmilliseconds hmillisecond
  exact ⟨by decide, hseconds, hmilliseconds, hmillisecond⟩

/-- One second and one millisecond after the start of Unix time, the milliseconds are one short; one
microsecond before the end of the calendar, the seconds are those of the next one. -/
theorem epoch_tokens_disagree :
    let early : Moment :=
      ⟨⟨1970, 1, 1, by decide, by decide, by decide, by decide, by decide, by decide⟩,
      ⟨0, 0, 1, 1000, by decide, by decide, by decide, by decide⟩⟩
    let late : Moment :=
      ⟨⟨9999, 12, 31, by decide, by decide, by decide, by decide, by decide, by decide⟩,
      ⟨23, 59, 59, 999999, by decide, by decide, by decide, by decide⟩⟩
    (early.format none "X" = .ok "1" ∧ early.format none "x" = .ok "1000" ∧
      early.format none "SSS" = .ok "001") ∧
    (late.unixSeconds = 253402300799 ∧ late.format none "X" = .ok "253402300800") ∧
    ¬ (∀ m : Moment, 1970 ≤ m.day.year → ∃ seconds milliseconds millisecond,
      ReadsAs m none "X" seconds ∧ ReadsAs m none "x" milliseconds ∧
        ReadsAs m none "SSS" millisecond ∧ milliseconds = 1000 * seconds + millisecond) ∧
    ¬ ∀ m : Moment, 1970 ≤ m.day.year → ReadsAs m none "X" m.unixSeconds := by
  intro early late
  have hof {x : Except Fault String} {text : String} (h : x.toOption = some text) :
      x = .ok text := by
    cases x with
    | error e => cases h
    | ok t => exact congrArg Except.ok (Option.some.inj h)
  have hX : early.format none "X" = .ok "1" := hof (by decide +kernel)
  have hx : early.format none "x" = .ok "1000" := hof (by decide +kernel)
  have hSSS : early.format none "SSS" = .ok "001" := hof (by decide +kernel)
  have hlate : late.format none "X" = .ok "253402300800" := hof (by decide +kernel)
  refine ⟨⟨hX, hx, hSSS⟩, ⟨by decide, hlate⟩, fun hall => ?_, fun hall => ?_⟩
  · obtain ⟨seconds, milliseconds, millisecond, ⟨tX, hX', hseconds⟩, ⟨tx, hx', hmilliseconds⟩,
      ⟨tSSS, hSSS', hmillisecond⟩, hsum⟩ := hall early (by decide)
    obtain rfl : "1" = tX := Except.ok.inj (hX.symm.trans hX')
    obtain rfl : "1000" = tx := Except.ok.inj (hx.symm.trans hx')
    obtain rfl : "001" = tSSS := Except.ok.inj (hSSS.symm.trans hSSS')
    obtain rfl : 1 = seconds := Except.ok.inj hseconds
    obtain rfl : 1000 = milliseconds := Except.ok.inj hmilliseconds
    obtain rfl : 1 = millisecond := Except.ok.inj hmillisecond
    norm_num at hsum
  · obtain ⟨text, hX', hseconds⟩ := hall late (by decide)
    obtain rfl : "253402300800" = text := Except.ok.inj (hlate.symm.trans hX')
    have hexact : (253402300800 : ℤ) = late.unixSeconds := Except.ok.inj hseconds
    have hwrong : ¬ (253402300800 : ℤ) = late.unixSeconds := by decide
    exact hwrong hexact

end Sigil.Moment
