/-
# Day numbers

The days of the calendar are numbered without a gap and in their order.  The year of a number is one
that begins before it and whose successor does not: the estimate that the search starts from is at
most one year off, since four centuries have a fixed number of days.  Within the year, the months
are passed one by one.  So every number from one on belongs to exactly one year, month and day of
the month, and the day with a number is found unless its year lies beyond the calendar.

A moment is numbered by microseconds in the same way.
-/
import Sigil.Moment.Calendar
import Mathlib

namespace Sigil

namespace Day

/-! ### Years -/

/-- The number of days of a year. -/
def daysInYear (year : ℕ) : ℕ := if isLeapYear year then 366 else 365

lemma isLeapYear_iff {year : ℕ} :
    isLeapYear year ↔ year % 4 = 0 ∧ (year % 100 ≠ 0 ∨ year % 400 = 0) := by
  simp [isLeapYear]

/-- A year follows the one before it after the days of that year. -/
lemma daysBeforeYear_succ {year : ℕ} (h : 1 ≤ year) :
    daysBeforeYear (year + 1) = daysBeforeYear year + daysInYear year := by
  obtain ⟨y, rfl⟩ := Nat.exists_eq_add_of_le' h
  have hle : y / 100 ≤ y := Nat.div_le_self y 100
  simp only [daysBeforeYear, daysInYear, isLeapYear_iff, Nat.add_sub_cancel, Nat.succ_div,
    Nat.dvd_iff_mod_eq_zero]
  split_ifs <;> omega

lemma daysBeforeYear_mono {a b : ℕ} (ha : 1 ≤ a) (h : a ≤ b) :
    daysBeforeYear a ≤ daysBeforeYear b := by
  refine Nat.rel_of_forall_rel_succ_of_le_of_le (· ≤ ·) (fun year hyear => ?_) ha h
  rw [daysBeforeYear_succ hyear]
  exact Nat.le_add_right _ _

/-- Four centuries have 146097 days, and the days before a year are nearly in this proportion. -/
lemma daysBeforeYear_bounds (y : ℕ) :
    146097 * y ≤ 400 * daysBeforeYear (y + 1) + 699 ∧
      400 * daysBeforeYear (y + 1) ≤ 146097 * y + 396 := by
  simp only [daysBeforeYear, Nat.add_sub_cancel]
  omega

/-- The day with a positive number lies in the year of that number. -/
lemma yearOfNumber_spec {n : ℕ} (h : 1 ≤ n) :
    1 ≤ yearOfNumber n ∧ daysBeforeYear (yearOfNumber n) < n ∧
      n ≤ daysBeforeYear (yearOfNumber n + 1) := by
  unfold yearOfNumber
  generalize hy : n * 400 / 146097 = y
  have hlow : 146097 * y ≤ n * 400 := by omega
  have hhigh : n * 400 < 146097 * (y + 1) := by omega
  dsimp only
  -- the estimate is one year too high, one year too low, or right
  split
  · next hle =>
      cases y with
      | zero => exact absurd (h.trans hle) (by decide)
      | succ y =>
          have hbefore := (daysBeforeYear_bounds y).2
          rw [Nat.add_sub_cancel]
          exact ⟨by omega, by omega, hle⟩
  · next hbefore =>
      split
      · next hlt =>
          have hafter : 146097 * (y + 2) ≤ 400 * daysBeforeYear (y + 1 + 1 + 1) + 699 :=
            (daysBeforeYear_bounds (y + 2)).1
          exact ⟨by omega, hlt, by omega⟩
      · next hle => exact ⟨by omega, not_le.mp hbefore, not_lt.mp hle⟩

/-! ### Months -/

lemma daysBeforeMonth_one (year : ℕ) : daysBeforeMonth year 1 = 0 := rfl

lemma daysBeforeMonth_succ (year : ℕ) {month : ℕ} (h : 1 ≤ month) :
    daysBeforeMonth year (month + 1) = daysBeforeMonth year month + daysInMonth year month := by
  obtain ⟨m, rfl⟩ := Nat.exists_eq_add_of_le' h
  simp [daysBeforeMonth, List.range_succ, List.foldl_append]

lemma daysBeforeMonth_mono (year : ℕ) {a b : ℕ} (ha : 1 ≤ a) (h : a ≤ b) :
    daysBeforeMonth year a ≤ daysBeforeMonth year b := by
  refine Nat.rel_of_forall_rel_succ_of_le_of_le (· ≤ ·) (fun month hmonth => ?_) ha h
  rw [daysBeforeMonth_succ year hmonth]
  exact Nat.le_add_right _ _

/-- Twelve months make up a year. -/
lemma daysBeforeMonth_thirteen (year : ℕ) : daysBeforeMonth year 13 = daysInYear year := by
  simp only [daysBeforeMonth, daysInYear, daysInMonth]
  cases isLeapYear year <;> rfl

/-- From the start of a month, the `n`-th day is found in the months that are searched, provided
that it does not lie beyond them. -/
lemma monthDay_spec (year fuel : ℕ) {month n : ℕ} (hmonth : 1 ≤ month) (hn : 1 ≤ n)
    (hlast : daysBeforeMonth year month + n ≤ daysBeforeMonth year (month + fuel)) :
    let found := monthDay year fuel month n
    month ≤ found.1 ∧ found.1 < month + fuel ∧ 1 ≤ found.2 ∧
      found.2 ≤ daysInMonth year found.1 ∧
      daysBeforeMonth year found.1 + found.2 = daysBeforeMonth year month + n := by
  induction fuel generalizing month n with
  | zero =>
      rw [Nat.add_zero] at hlast
      omega
  | succ fuel ih =>
      have hnext := daysBeforeMonth_succ year hmonth
      rw [monthDay]
      split
      · next hle => exact ⟨le_rfl, by dsimp only; omega, hn, hle, rfl⟩
      · next hle =>
          have hshift : month + 1 + fuel = month + (fuel + 1) := by omega
          obtain ⟨hfirst, hbelow, hpos, hday, hsum⟩ := @ih (month + 1) (n - daysInMonth year month)
            (by omega) (by omega) (by rw [hshift]; omega)
          exact ⟨by omega, by omega, hpos, hday, by omega⟩

/-! ### Days -/

lemma number_eq (d : Day) :
    d.number = daysBeforeYear d.year + (daysBeforeMonth d.year d.month + d.day) := rfl

lemma dayOfYear_le (d : Day) : d.dayOfYear ≤ daysInYear d.year := by
  have hday := d.day_le
  have hnext := daysBeforeMonth_succ d.year d.month_pos
  have hyear : daysBeforeMonth d.year (d.month + 1) ≤ daysBeforeMonth d.year 13 :=
    daysBeforeMonth_mono d.year (Nat.le_add_left 1 _) (Nat.succ_le_succ d.month_le)
  rw [daysBeforeMonth_thirteen] at hyear
  rw [dayOfYear]
  omega

lemma number_pos (d : Day) : 1 ≤ d.number := by
  have hpos := d.day_pos
  rw [number_eq]
  omega

/-- The last day of a year that is followed by another one comes before it. -/
lemma number_le (d : Day) : d.number ≤ daysBeforeYear (d.year + 1) := by
  have hday := d.dayOfYear_le
  rw [daysBeforeYear_succ d.year_pos, number]
  omega

/-- The order of days: by year, month and day of the month. -/
def Precedes (d e : Day) : Prop :=
  d.year < e.year ∨ d.year = e.year ∧ (d.month < e.month ∨ d.month = e.month ∧ d.day < e.day)

/-- An earlier day has a smaller number. -/
lemma Precedes.number_lt {d e : Day} (h : d.Precedes e) : d.number < e.number := by
  have hpos := e.day_pos
  obtain hyear | ⟨hyear, hmonth | ⟨hmonth, hday⟩⟩ := h
  · have hlast := d.number_le
    have hmono := daysBeforeYear_mono (Nat.le_add_left 1 d.year) hyear
    rw [number_eq e]
    omega
  · have hday := d.day_le
    have hnext := daysBeforeMonth_succ d.year d.month_pos
    have hmono := daysBeforeMonth_mono d.year (Nat.le_add_left 1 d.month) hmonth
    rw [number_eq, number_eq, ← hyear]
    omega
  · rw [number_eq, number_eq, ← hyear, ← hmonth]
    omega

lemma eq_or_precedes (d e : Day) : d = e ∨ d.Precedes e ∨ e.Precedes d := by
  cases d
  cases e
  simp only [Day.mk.injEq, Precedes]
  omega

lemma number_injective : Function.Injective number := by
  intro d e h
  obtain rfl | hbefore | hafter := eq_or_precedes d e
  · rfl
  · exact absurd hbefore.number_lt h.not_lt
  · exact absurd hafter.number_lt h.not_gt

lemma of?_eq_some_iff {year month day : ℕ} {d : Day} :
    of? year month day = some d ↔ d.year = year ∧ d.month = month ∧ d.day = day := by
  rw [of?]
  split
  · rw [Option.some_inj]
    cases d
    simp only [Day.mk.injEq]
    omega
  · next hnone =>
      refine ⟨fun h => absurd h (by simp), ?_⟩
      rintro ⟨rfl, rfl, rfl⟩
      exact absurd ⟨d.year_pos, d.year_le, d.month_pos, d.month_le, d.day_pos, d.day_le⟩ hnone

/-- The number of the last day of the calendar. -/
def lastNumber : ℕ := daysBeforeYear 10000

lemma number_le_lastNumber (d : Day) : d.number ≤ lastNumber := by
  have hyear : daysBeforeYear (d.year + 1) ≤ daysBeforeYear 10000 :=
    daysBeforeYear_mono (Nat.le_add_left 1 _) (Nat.succ_le_succ d.year_le)
  exact d.number_le.trans hyear

/-- The year, month and day of the month that are found for a positive number have that number. -/
lemma located {n : ℕ} (h : 1 ≤ n) :
    let year := yearOfNumber n
    let found := monthDay year 12 1 (n - daysBeforeYear year)
    1 ≤ year ∧ 1 ≤ found.1 ∧ found.1 ≤ 12 ∧ 1 ≤ found.2 ∧ found.2 ≤ daysInMonth year found.1 ∧
      daysBeforeYear year + (daysBeforeMonth year found.1 + found.2) = n := by
  obtain ⟨hyear, hbefore, hafter⟩ := yearOfNumber_spec h
  rw [daysBeforeYear_succ hyear, ← daysBeforeMonth_thirteen] at hafter
  have hinside : daysBeforeMonth (yearOfNumber n) 1 + (n - daysBeforeYear (yearOfNumber n)) ≤
      daysBeforeMonth (yearOfNumber n) 13 := by
    rw [daysBeforeMonth_one]
    omega
  obtain ⟨hfirst, hbelow, hday, hmonth, hsum⟩ :=
    monthDay_spec (yearOfNumber n) 12 le_rfl (Nat.le_sub_of_add_le' hbefore) hinside
  rw [daysBeforeMonth_one] at hsum
  exact ⟨hyear, hfirst, by omega, hday, hmonth, by omega⟩

lemma yearOfNumber_le {n : ℕ} (hpos : 1 ≤ n) (hlast : n ≤ lastNumber) : yearOfNumber n ≤ 9999 := by
  by_contra hbeyond
  have hbefore := (yearOfNumber_spec hpos).2.1
  have hmono : daysBeforeYear 10000 ≤ daysBeforeYear (yearOfNumber n) :=
    daysBeforeYear_mono (by decide) (not_le.mp hbeyond)
  have hlimit : n ≤ daysBeforeYear 10000 := hlast
  omega

lemma ofNumber?_natCast {n : ℕ} (h : 1 ≤ n) :
    ofNumber? n = of? (yearOfNumber n)
      (monthDay (yearOfNumber n) 12 1 (n - daysBeforeYear (yearOfNumber n))).1
      (monthDay (yearOfNumber n) 12 1 (n - daysBeforeYear (yearOfNumber n))).2 := by
  rw [ofNumber?, if_neg (by omega)]
  rfl

/-- Every number up to the last one is that of a day, which is found. -/
lemma exists_ofNumber? {n : ℕ} (hpos : 1 ≤ n) (hlast : n ≤ lastNumber) :
    ∃ d, ofNumber? n = some d ∧ d.number = n := by
  obtain ⟨hyear, hfirst, hbelow, hday, hmonth, hsum⟩ := located hpos
  refine ⟨⟨yearOfNumber n, _, _, hyear, yearOfNumber_le hpos hlast, hfirst, hbelow, hday, hmonth⟩,
    ?_, hsum⟩
  rw [ofNumber?_natCast hpos, of?_eq_some_iff]
  exact ⟨rfl, rfl, rfl⟩

/-- The day that is found for a number is the one with that number. -/
lemma ofNumber?_eq_some_iff {n : ℤ} {d : Day} : ofNumber? n = some d ↔ (d.number : ℤ) = n := by
  have hpos := d.number_pos
  constructor
  · intro h
    have hn : 1 ≤ n := by
      by_contra hneg
      rw [ofNumber?, if_pos (not_le.mp hneg)] at h
      cases h
    lift n to ℕ using by omega
    rw [ofNumber?_natCast (by omega), of?_eq_some_iff] at h
    obtain ⟨hyear, hmonth, hday⟩ := h
    obtain ⟨-, -, -, -, -, hsum⟩ := located (n := n) (by omega)
    rw [number_eq, hyear, hmonth, hday, hsum]
  · rintro rfl
    obtain ⟨e, he, hnumber⟩ := exists_ofNumber? hpos d.number_le_lastNumber
    rw [he, number_injective hnumber]

end Day

/-! ### Times of day -/

namespace Clock

lemma seconds_lt (c : Clock) : c.seconds < 86400 := by
  have hhour := c.hour_lt
  have hminute := c.minute_lt
  have hsecond := c.second_lt
  rw [seconds]
  omega

lemma of?_eq_some_iff {hour minute second microsecond : ℕ} {c : Clock} :
    of? hour minute second microsecond = some c ↔
      c.hour = hour ∧ c.minute = minute ∧ c.second = second ∧ c.microsecond = microsecond := by
  rw [of?]
  split
  · rw [Option.some_inj]
    cases c
    simp only [Clock.mk.injEq]
    omega
  · next hnone =>
      refine ⟨fun h => absurd h (by simp), ?_⟩
      rintro ⟨rfl, rfl, rfl, rfl⟩
      exact absurd ⟨c.hour_lt, c.minute_lt, c.second_lt, c.microsecond_lt⟩ hnone

/-- The time of day that is found for a number of seconds and microseconds is the one with them. -/
lemma of?_seconds_eq_some_iff {seconds microsecond : ℕ} {c : Clock} (h : seconds < 86400) :
    of? (seconds / 3600) (seconds / 60 % 60) (seconds % 60) microsecond = some c ↔
      c.seconds = seconds ∧ c.microsecond = microsecond := by
  have hminute := c.minute_lt
  have hsecond := c.second_lt
  rw [of?_eq_some_iff, Clock.seconds]
  omega

end Clock

/-! ### Moments -/

namespace Moment

/-- The moment that is found for a number of microseconds is the one with that number. -/
lemma ofMicroseconds?_eq_some_iff {n : ℤ} {t : Moment} :
    ofMicroseconds? n = some t ↔ (t.microseconds : ℤ) = n := by
  by_cases hneg : n < 0
  · rw [ofMicroseconds?, if_pos hneg]
    exact ⟨fun h => absurd h (by simp), fun h => by omega⟩
  lift n to ℕ using not_lt.mp hneg
  have hday := t.day.number_pos
  have hseconds := t.clock.seconds_lt
  have hmicrosecond := t.clock.microsecond_lt
  have hparts : ofMicroseconds? n = some t ↔
      Day.ofNumber? ((n / 1000000 / 86400 + 1 : ℕ) : ℤ) = some t.day ∧
        Clock.of? (n / 1000000 % 86400 / 3600) (n / 1000000 % 86400 / 60 % 60)
          (n / 1000000 % 86400 % 60) (n % 1000000) = some t.clock := by
    simp only [ofMicroseconds?, if_neg hneg, Int.toNat_natCast, Nat.cast_add, Nat.cast_one,
      Int.natCast_ediv, Nat.cast_ofNat]
    split
    · next d c hd hc =>
        rw [hd, hc, Option.some_inj, Option.some_inj, Option.some_inj, Moment.mk.injEq]
    · next hnone =>
        exact ⟨fun h => absurd h (by simp), fun h => absurd h.2 (hnone _ _ h.1)⟩
  rw [hparts, Day.ofNumber?_eq_some_iff, Clock.of?_seconds_eq_some_iff (by omega), microseconds]
  omega

/-- The number of microseconds from the start of the calendar to its end. -/
def microsecondsInAll : ℕ := Day.lastNumber * 86400000000

/-- The microseconds at which there is a moment are those before the end of the calendar. -/
lemma exists_microseconds_iff {n : ℤ} :
    (∃ t : Moment, (t.microseconds : ℤ) = n) ↔ 0 ≤ n ∧ n < microsecondsInAll := by
  constructor
  · rintro ⟨t, rfl⟩
    have hday := t.day.number_pos
    have hlast := t.day.number_le_lastNumber
    have hseconds := t.clock.seconds_lt
    have hmicrosecond := t.clock.microsecond_lt
    unfold microseconds microsecondsInAll
    omega
  · rintro ⟨hpos, hlast⟩
    lift n to ℕ using hpos
    unfold microsecondsInAll at hlast
    obtain ⟨d, -, hnumber⟩ := Day.exists_ofNumber? (n := n / 86400000000 + 1)
      (Nat.le_add_left 1 _) (by omega)
    have hof : ∃ c, Clock.of? (n / 1000000 % 86400 / 3600) (n / 1000000 % 86400 / 60 % 60)
        (n / 1000000 % 86400 % 60) (n % 1000000) = some c := by
      refine ⟨_, dif_pos ⟨?_, ?_, ?_, ?_⟩⟩ <;> omega
    obtain ⟨c, hc⟩ := hof
    obtain ⟨hseconds, hmicrosecond⟩ := (Clock.of?_seconds_eq_some_iff (by omega)).mp hc
    refine ⟨⟨d, c⟩, ?_⟩
    rw [microseconds, Nat.cast_inj]
    dsimp only
    omega

end Moment

end Sigil
