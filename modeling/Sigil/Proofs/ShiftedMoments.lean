/-
# Shifted moments

Years, quarters and months move a moment along the months, which are counted through from year 0;
the day of the month stays unless the month is too short for it.  A day of the month that every
month has is kept, so that shifts by months add up.  All other periods move a moment along the
microseconds of the calendar by a fixed number of them, which the same number in the other direction
takes back.  In both cases the shift succeeds exactly if its goal lies in the calendar.
-/
import Sigil.Library.Dates
import Sigil.Proofs.DayNumbers

namespace Sigil

namespace Moment

/-! ### Months -/

/-- The month with an index lies in a year of the calendar. -/
def InCalendar (index : ℤ) : Prop := 1 ≤ index / 12 ∧ index / 12 ≤ 9999

/-- The year and the month of an index have that index. -/
lemma monthIndex_of_parts {index : ℤ} (h : InCalendar index) {d : Day}
    (hyear : d.year = (index / 12).toNat) (hmonth : d.month = (index % 12).toNat + 1) :
    monthIndex d = index := by
  obtain ⟨hpos, -⟩ := h
  rw [monthIndex, hyear, hmonth]
  omega

lemma le_daysInMonth (year month : ℕ) : 28 ≤ daysInMonth year month := by
  unfold daysInMonth
  split
  · split <;> decide
  · split <;> decide

section

variable {m t : Moment} {k l : ℤ}

lemma addMonths_of_not_inCalendar (h : ¬ InCalendar (monthIndex m.day + k)) :
    m.addMonths k = .error (yearFault ((monthIndex m.day + k).fdiv 12)) := by
  have hyear : (monthIndex m.day + k).fdiv 12 < 1 ∨ 9999 < (monthIndex m.day + k).fdiv 12 := by
    rw [Int.fdiv_eq_ediv_of_nonneg _ (by decide)]
    unfold InCalendar at h
    omega
  simp only [addMonths, Bool.or_eq_true, decide_eq_true_eq]
  exact if_pos hyear

/-- A shift to a month of the calendar arrives in that month, on the same day of it or on its last
one. -/
lemma exists_addMonths (h : InCalendar (monthIndex m.day + k)) :
    ∃ t, m.addMonths k = .ok t ∧ monthIndex t.day = monthIndex m.day + k ∧
      t.day.day = min m.day.day (daysInMonth t.day.year t.day.month) ∧ t.clock = m.clock := by
  have hyear : ¬ ((monthIndex m.day + k) / 12 < 1 ∨ 9999 < (monthIndex m.day + k) / 12) := by
    unfold InCalendar at h
    omega
  have hpos := m.day.day_pos
  have hlength := le_daysInMonth ((monthIndex m.day + k) / 12).toNat
    (((monthIndex m.day + k) % 12).toNat + 1)
  let d : Day := ⟨((monthIndex m.day + k) / 12).toNat, ((monthIndex m.day + k) % 12).toNat + 1,
    min m.day.day (daysInMonth ((monthIndex m.day + k) / 12).toNat
      (((monthIndex m.day + k) % 12).toNat + 1)),
    by omega, by omega, by omega, by omega, by omega, by omega⟩
  have hd : Day.of? d.year d.month d.day = some d := Day.of?_eq_some_iff.mpr ⟨rfl, rfl, rfl⟩
  refine ⟨{ m with day := d }, ?_, monthIndex_of_parts h rfl rfl, rfl, rfl⟩
  simp only [addMonths, Int.fdiv_eq_ediv_of_nonneg _ (by decide : (0 : ℤ) ≤ 12),
    Int.fmod_eq_emod_of_nonneg _ (by decide : (0 : ℤ) ≤ 12), Bool.or_eq_true, decide_eq_true_eq,
    if_neg hyear]
  rw [hd]

/-- A shift by months depends on no more than the month that it leads to, the day of the month and
the time of day. -/
lemma addMonths_congr (hindex : monthIndex m.day + k = monthIndex t.day + l)
    (hday : m.day.day = t.day.day) (hclock : m.clock = t.clock) :
    m.addMonths k = t.addMonths l := by
  simp only [addMonths, hindex, hday, hclock]

lemma inCalendar_of_addMonths (h : m.addMonths k = .ok t) : InCalendar (monthIndex m.day + k) := by
  by_contra hout
  cases (addMonths_of_not_inCalendar hout).symm.trans h

lemma addMonths_eq_ok (h : m.addMonths k = .ok t) :
    monthIndex t.day = monthIndex m.day + k ∧
      t.day.day = min m.day.day (daysInMonth t.day.year t.day.month) ∧ t.clock = m.clock := by
  obtain ⟨u, hu, hgoal⟩ := exists_addMonths (inCalendar_of_addMonths h)
  obtain rfl : u = t := Except.ok.inj (hu.symm.trans h)
  exact hgoal

/-- From a day that every month has, shifts add up. -/
lemma addMonths_addMonths (h : m.addMonths k = .ok t) (hday : m.day.day ≤ 28) :
    t.addMonths l = m.addMonths (k + l) := by
  obtain ⟨hindex, hmin, hclock⟩ := addMonths_eq_ok h
  have hlength := le_daysInMonth t.day.year t.day.month
  exact addMonths_congr (by omega) (by omega) hclock

/-! ### Spans -/

lemma microseconds_lt (m : Moment) : m.microseconds < 315537897600000000 := by
  have hall := (exists_microseconds_iff.mp ⟨m, rfl⟩).2
  have hvalue : microsecondsInAll = 315537897600000000 := rfl
  rw [hvalue] at hall
  exact_mod_cast hall

/-- No span between two moments is too long to be one. -/
lemma days_of_span (h : (t.microseconds : ℤ) = m.microseconds + k) :
    -999999999 ≤ k.fdiv 86400000000 ∧ k.fdiv 86400000000 ≤ 999999999 := by
  have hstart := m.microseconds_lt
  have hend := t.microseconds_lt
  rw [Int.fdiv_eq_ediv_of_nonneg _ (by decide)]
  omega

lemma ofMicroseconds?_of_addSpan (h : m.addSpan k = .ok t) :
    ofMicroseconds? (m.microseconds + k) = some t := by
  simp only [addSpan] at h
  split at h
  · cases h
  · split at h
    · cases h
    · split at h
      · next u hu => rw [hu, Except.ok.inj h]
      · cases h

/-- A shift by microseconds arrives where that many more have passed since the start of the
calendar. -/
lemma addSpan_eq_ok_iff : m.addSpan k = .ok t ↔ (t.microseconds : ℤ) = m.microseconds + k := by
  refine ⟨fun h => ofMicroseconds?_eq_some_iff.mp (ofMicroseconds?_of_addSpan h), fun h => ?_⟩
  have hdays := days_of_span h
  have hword : ¬ (k.fdiv 86400000000 < -Int.pow 2 31 ∨ Int.pow 2 31 ≤ k.fdiv 86400000000) := by
    have hpow : Int.pow 2 31 = 2147483648 := rfl
    omega
  have hlimit : ¬ (k.fdiv 86400000000 < -spanLimit ∨ spanLimit < k.fdiv 86400000000) := by
    unfold spanLimit
    omega
  simp only [addSpan, Bool.or_eq_true, decide_eq_true_eq, if_neg hword, if_neg hlimit,
    ofMicroseconds?_eq_some_iff.mpr h]

end

end Moment

namespace Library

open Moment

/-! ### Shifts -/

/-- The names that a period goes by. -/
def periodSpellings : Period → List String
  | .years => ["y", "year", "years"]
  | .quarters => ["q", "quarter", "quarters"]
  | .months => ["month", "months"]
  | .weeks => ["w", "week", "weeks"]
  | .days => ["d", "day", "days"]
  | .hours => ["h", "hour", "hours"]
  | .minutes => ["m", "minute", "minutes"]
  | .seconds => ["s", "second", "seconds"]

lemma lookup_of_mem_periodSpellings {name : String} {p : Period} (h : name ∈ periodSpellings p) :
    periodNames.lookup name = some p := by
  have hall : ∀ p, ∀ name ∈ periodSpellings p, periodNames.lookup name = some p := by
    intro p
    cases p <;> decide
  exact hall p name h

/-- The arguments ask for a number of periods: the first one names the period, in any letter case
and with blanks around it, and the second one reads as the number. -/
structure Asks (period amount : Value) (p : Period) (n : ℤ) : Prop where
  /-- The text of the first argument is a name of the period. -/
  named : ∃ s, period.toText = .ok s ∧
    String.ofList (Text.lower (Text.strip s.toList)) ∈ periodSpellings p
  /-- The second argument reads as the number. -/
  counted : number amount = .ok (.int n)

/-- The arguments ask for a shift by this many months: years have twelve, quarters three. -/
inductive AsksMonths (period amount : Value) : ℤ → Prop
  | years {n : ℤ} : Asks period amount .years n → AsksMonths period amount (12 * n)
  | quarters {n : ℤ} : Asks period amount .quarters n → AsksMonths period amount (3 * n)
  | months {n : ℤ} : Asks period amount .months n → AsksMonths period amount n

/-- The arguments ask for a shift by this many microseconds. -/
inductive AsksSpan (period amount : Value) : ℤ → Prop
  | weeks {n : ℤ} : Asks period amount .weeks n →
      AsksSpan period amount (7 * 24 * 60 * 60 * 1000000 * n)
  | days {n : ℤ} : Asks period amount .days n →
      AsksSpan period amount (24 * 60 * 60 * 1000000 * n)
  | hours {n : ℤ} : Asks period amount .hours n →
      AsksSpan period amount (60 * 60 * 1000000 * n)
  | minutes {n : ℤ} : Asks period amount .minutes n →
      AsksSpan period amount (60 * 1000000 * n)
  | seconds {n : ℤ} : Asks period amount .seconds n →
      AsksSpan period amount (1000000 * n)

section

variable {period amount : Value} {p : Period} {n k : ℤ} {size : ℕ}

lemma Asks.shiftBy_eq (h : Asks period amount p n) (m : Moment) :
    shiftBy m period amount = m.shift p (.int n) := by
  obtain ⟨s, htext, hname⟩ := h.named
  simp only [shiftBy, htext, lookup_of_mem_periodSpellings hname, h.counted, bind, Except.bind]

lemma Asks.shiftBy_months (h : Asks period amount p n) (hextent : p.extent = .months size)
    (m : Moment) : shiftBy m period amount = m.addMonths (n * size) := by
  rw [h.shiftBy_eq, shift, hextent]
  rfl

lemma Asks.shiftBy_span (h : Asks period amount p n) (hextent : p.extent = .span size)
    (m : Moment) : shiftBy m period amount = m.addSpan (n * size) := by
  rw [h.shiftBy_eq, shift, hextent]
  rfl

lemma AsksMonths.shiftBy_eq (h : AsksMonths period amount k) (m : Moment) :
    shiftBy m period amount = m.addMonths k := by
  cases h with
  | years h => rw [h.shiftBy_months rfl, mul_comm]; rfl
  | quarters h => rw [h.shiftBy_months rfl, mul_comm]; rfl
  | months h => rw [h.shiftBy_months rfl, Nat.cast_one, mul_one]

lemma AsksSpan.shiftBy_eq (h : AsksSpan period amount k) (m : Moment) :
    shiftBy m period amount = m.addSpan k := by
  cases h with
  | weeks h => rw [h.shiftBy_span rfl, mul_comm]; rfl
  | days h => rw [h.shiftBy_span rfl, mul_comm]; rfl
  | hours h => rw [h.shiftBy_span rfl, mul_comm]; rfl
  | minutes h => rw [h.shiftBy_span rfl, mul_comm]; rfl
  | seconds h => rw [h.shiftBy_span rfl, mul_comm]; rfl

end

/-- **Shifted moments.**  A shift by months succeeds exactly if it leads to a month of the calendar,
and it keeps the time of day and, as far as the month has it, the day; from a day that every month
has, two shifts one after the other are one shift by both.  A shift by a span succeeds exactly if it
leads to a moment of the calendar, the one that is so much later, and the opposite shift takes it
back. -/
theorem shiftBy_exact (m : Moment) {period amount : Value} {k : ℤ} :
    (AsksMonths period amount k →
      ((∃ t, shiftBy m period amount = .ok t) ↔
        1 ≤ (12 * (m.day.year : ℤ) + (m.day.month - 1) + k) / 12 ∧
          (12 * (m.day.year : ℤ) + (m.day.month - 1) + k) / 12 ≤ 9999) ∧
      ∀ t, shiftBy m period amount = .ok t →
        12 * (t.day.year : ℤ) + (t.day.month - 1) =
          12 * (m.day.year : ℤ) + (m.day.month - 1) + k ∧
        t.day.day = min m.day.day (daysInMonth t.day.year t.day.month) ∧
        t.clock = m.clock ∧
        (m.day.day ≤ 28 → ∀ {next more both all l}, AsksMonths next more l →
          AsksMonths both all (k + l) → shiftBy t next more = shiftBy m both all)) ∧
    (AsksSpan period amount k →
      ((∃ t, shiftBy m period amount = .ok t) ↔
        0 ≤ m.microseconds + k ∧ m.microseconds + k < microsecondsInAll) ∧
      ∀ t, shiftBy m period amount = .ok t →
        (t.microseconds : ℤ) = m.microseconds + k ∧
        ∀ {back less}, AsksSpan back less (-k) → shiftBy t back less = .ok m) := by
  constructor
  · intro hmonths
    rw [hmonths.shiftBy_eq]
    refine ⟨⟨fun ⟨t, ht⟩ => inCalendar_of_addMonths ht, fun hinside => ?_⟩, fun t ht => ?_⟩
    · have hmonth : InCalendar (monthIndex m.day + k) := hinside
      obtain ⟨t, ht, -⟩ := exists_addMonths hmonth
      exact ⟨t, ht⟩
    · obtain ⟨hindex, hday, hclock⟩ := addMonths_eq_ok ht
      refine ⟨hindex, hday, hclock, fun hkept => ?_⟩
      intro next more both all l hnext hboth
      rw [hnext.shiftBy_eq, hboth.shiftBy_eq]
      exact addMonths_addMonths ht hkept
  · intro hspan
    rw [hspan.shiftBy_eq]
    simp only [addSpan_eq_ok_iff, exists_microseconds_iff, true_and]
    intro t ht
    refine ⟨ht, fun hback => ?_⟩
    rw [hback.shiftBy_eq, addSpan_eq_ok_iff]
    omega

/-- Eight quarters back from a day in February and three years forward again, which are twelve
months; a week on and so many minutes back, an hour and a half on in minutes and back in seconds,
and a day on and 24 hours back.  The names and the numbers may be written in several ways. -/
theorem shiftBy_exact_leap :
    let m : Moment :=
      ⟨⟨2024, 2, 28, by decide, by decide, by decide, by decide, by decide, by decide⟩,
      ⟨13, 5, 9, 123456, by decide, by decide, by decide, by decide⟩⟩
    (∃ t, shiftBy m (.text " Quarters ") (.text "-8") = .ok t ∧
      12 * (t.day.year : ℤ) + (t.day.month - 1) = 12 * 2022 + 1 ∧ t.day.day = 28 ∧
      t.clock = m.clock ∧
      shiftBy t (.text "y") (.int 3) = shiftBy m (.text "MONTH") (.int 12)) ∧
    (∃ t, shiftBy m (.text "W") (.bool true) = .ok t ∧
      (t.microseconds : ℤ) = m.microseconds + 604800000000 ∧
      shiftBy t (.text "minutes") (.text "-10080") = .ok m) ∧
    (∃ t, shiftBy m (.text "m") (.int 90) = .ok t ∧
      (t.microseconds : ℤ) = m.microseconds + 5400000000 ∧
      shiftBy t (.text "second") (.int (-5400)) = .ok m) ∧
    (∃ t, shiftBy m (.text "d") (.bool true) = .ok t ∧
      (t.microseconds : ℤ) = m.microseconds + 86400000000 ∧
      shiftBy t (.text "hours") (.text "-24") = .ok m) := by
  intro m
  have hquarters : AsksMonths (.text " Quarters ") (.text "-8") (3 * (-8)) :=
    .quarters ⟨⟨_, rfl, by decide +kernel⟩, by cbv⟩
  have hyears : AsksMonths (.text "y") (.int 3) (12 * 3) :=
    .years ⟨⟨_, rfl, by decide +kernel⟩, rfl⟩
  have hmonths : AsksMonths (.text "MONTH") (.int 12) 12 :=
    .months ⟨⟨_, rfl, by decide +kernel⟩, rfl⟩
  have hweeks : AsksSpan (.text "W") (.bool true) (7 * 24 * 60 * 60 * 1000000 * 1) :=
    .weeks ⟨⟨_, rfl, by decide +kernel⟩, rfl⟩
  have hminutesBack : AsksSpan (.text "minutes") (.text "-10080") (60 * 1000000 * (-10080)) :=
    .minutes ⟨⟨_, rfl, by decide +kernel⟩, by cbv⟩
  have hminutes : AsksSpan (.text "m") (.int 90) (60 * 1000000 * 90) :=
    .minutes ⟨⟨_, rfl, by decide +kernel⟩, rfl⟩
  have hseconds : AsksSpan (.text "second") (.int (-5400)) (1000000 * (-5400)) :=
    .seconds ⟨⟨_, rfl, by decide +kernel⟩, rfl⟩
  have hdays : AsksSpan (.text "d") (.bool true) (24 * 60 * 60 * 1000000 * 1) :=
    .days ⟨⟨_, rfl, by decide +kernel⟩, rfl⟩
  have hhours : AsksSpan (.text "hours") (.text "-24") (60 * 60 * 1000000 * (-24)) :=
    .hours ⟨⟨_, rfl, by decide +kernel⟩, by cbv⟩
  refine ⟨?_, ?_, ?_, ?_⟩
  · obtain ⟨hexists, hgoal⟩ := (shiftBy_exact m).1 hquarters
    obtain ⟨t, ht⟩ := hexists.mpr (by decide)
    obtain ⟨hindex, hday, hclock, hadd⟩ := hgoal t ht
    refine ⟨t, ht, hindex, ?_, hclock, hadd (by decide) hyears hmonths⟩
    have hlength := le_daysInMonth t.day.year t.day.month
    rw [hday]
    exact Nat.min_eq_left hlength
  · obtain ⟨hexists, hgoal⟩ := (shiftBy_exact m).2 hweeks
    obtain ⟨t, ht⟩ := hexists.mpr (by decide)
    obtain ⟨hlinear, hback⟩ := hgoal t ht
    exact ⟨t, ht, hlinear, hback hminutesBack⟩
  · obtain ⟨hexists, hgoal⟩ := (shiftBy_exact m).2 hminutes
    obtain ⟨t, ht⟩ := hexists.mpr (by decide)
    obtain ⟨hlinear, hback⟩ := hgoal t ht
    exact ⟨t, ht, hlinear, hback hseconds⟩
  · obtain ⟨hexists, hgoal⟩ := (shiftBy_exact m).2 hdays
    obtain ⟨t, ht⟩ := hexists.mpr (by decide)
    obtain ⟨hlinear, hback⟩ := hgoal t ht
    exact ⟨t, ht, hlinear, hback hhours⟩

end Library

end Sigil
