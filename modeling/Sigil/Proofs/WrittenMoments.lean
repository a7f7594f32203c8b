/-
# Written moments are read back

The readings of the six slots make up the day and the time to the second, in whatever order they
come.  So a moment that is written in a format of the six slots is read back from it, unless the
format has a percent sign outside brackets: with one of them, nothing that is written in the format
can be read in it.
-/
import Sigil.Proofs.LonePercents

namespace Sigil.Moment

open Sigil.Decimal (digitsValue)

/-! ### Readings in any order -/

section

variable {m : Moment} {slots : List Slot}

/-- Of slots in any order, those with a property are the same ones if there is at most one. -/
lemma filter_slots (h : slots.Perm Slot.all) {q : Slot → Bool}
    (hone : (Slot.all.filter q).length ≤ 1) : slots.filter q = Slot.all.filter q := by
  have hperm : (slots.filter q).Perm (Slot.all.filter q) := h.filter q
  match hfilter : Slot.all.filter q with
  | [] => exact List.perm_nil.mp (hfilter ▸ hperm)
  | [p] => exact List.perm_singleton.mp (hfilter ▸ hperm)
  | _ :: _ :: _ => simp [hfilter] at hone

lemma filter_readingsOf (h : slots.Perm Slot.all) {q : Char → Bool}
    (hone : (Slot.all.filter fun p => q p.directive).length ≤ 1) :
    (readingsOf m slots).filter (fun r => q r.1) =
      (readingsOf m Slot.all).filter fun r => q r.1 := by
  have hslots := filter_slots h hone
  simp only [readingsOf, List.filter_map]
  exact congrArg (List.map _) hslots

lemma reading?_readingsOf (h : slots.Perm Slot.all) {letter : Char}
    (hone : (Slot.all.filter fun p => p.directive == letter).length ≤ 1) :
    reading? (readingsOf m slots) letter = reading? (readingsOf m Slot.all) letter := by
  have hfilter : (readingsOf m slots).filter (fun r => r.1 == letter) = _ :=
    filter_readingsOf (q := (· == letter)) h hone
  rw [reading?, reading?, ← List.head?_filter, ← List.head?_filter, hfilter]

lemma lastReading?_readingsOf (h : slots.Perm Slot.all) {letters : List Char}
    (hone : (Slot.all.filter fun p => letters.contains p.directive).length ≤ 1) :
    lastReading? (readingsOf m slots) letters = lastReading? (readingsOf m Slot.all) letters := by
  rw [lastReading?, lastReading?, filter_readingsOf (q := letters.contains) h hone]

lemma numberOf?_of_reading {rs : Readings} {p : Slot}
    (h : reading? rs p.directive = some (p.digits m)) :
    numberOf? rs p.directive = some (p.value m) := by
  have hdigits : (p.digits m).filter (· != ' ') = p.digits m := by
    refine List.filter_eq_self.mpr fun c hc => ?_
    have hdigit := Decimal.isAsciiDigit_iff.mp (p.isAsciiDigit_of_mem_digits m hc)
    rw [bne_iff_ne]
    rintro rfl
    exact absurd hdigit.1 (by decide)
  rw [numberOf?, h, Option.map_some, hdigits, p.digitsValue_digits]

lemma dayOf_day (d : Day) : dayOf d.year d.month d.day = .ok d := by
  have hyear : ¬ ((d.year : Int) < 1 ∨ 9999 < (d.year : Int)) := by
    have hpos := d.year_pos
    have hle := d.year_le
    omega
  have hmonth : ¬ (d.month < 1 ∨ 12 < d.month) := by
    have hpos := d.month_pos
    have hle := d.month_le
    omega
  have hof : Day.of? (d.year : Int).toNat d.month d.day = some d := by
    rw [Int.toNat_natCast, Day.of?, dif_pos ⟨d.year_pos, d.year_le, d.month_pos, d.month_le,
      d.day_pos, d.day_le⟩]
  simp only [dayOf, Bool.or_eq_true, decide_eq_true_eq, if_neg hyear, if_neg hmonth, hof]

/-- The time of day without its fraction of a second. -/
def wholeSeconds (c : Clock) : Clock :=
  { c with microsecond := 0, microsecond_lt := Nat.zero_lt_succ _ }

lemma clockOf_clock (c : Clock) : clockOf c.hour c.minute c.second 0 = .ok (wholeSeconds c) := by
  have hof : Clock.of? c.hour c.minute c.second 0 = some (wholeSeconds c) :=
    dif_pos ⟨c.hour_lt, c.minute_lt, c.second_lt, by decide⟩
  rw [clockOf, hof]

lemma readDay_readingsOf (h : slots.Perm Slot.all) : readDay (readingsOf m slots) = .ok m.day := by
  have hyear : readYear? (readingsOf m slots) = some m.day.year := by
    have hlast : lastReading? (readingsOf m slots) ['y', 'Y'] = some ('Y', Slot.year.digits m) :=
      lastReading?_readingsOf h (by decide)
    rw [readYear?, hlast]
    exact congrArg some (Slot.year.digitsValue_digits m)
  have hmonth : readMonth (readingsOf m slots) = .ok m.day.month := by
    have hlast : lastReading? (readingsOf m slots) ['m', 'B', 'b'] =
        some ('m', Slot.month.digits m) := lastReading?_readingsOf h (by decide)
    rw [readMonth, hlast]
    exact congrArg Except.ok (Slot.month.digitsValue_digits m)
  have hday : numberOf? (readingsOf m slots) 'd' = some m.day.day :=
    numberOf?_of_reading (p := .day) (reading?_readingsOf h (by decide))
  have hweekday : readWeekday? (readingsOf m slots) = .ok none := by
    have hlast : lastReading? (readingsOf m slots) ['A', 'a', 'w', 'u'] = none :=
      lastReading?_readingsOf h (by decide)
    rw [readWeekday?, hlast]
  have hnone {letter : Char} (hreading : reading? (readingsOf m slots) letter = none) :
      numberOf? (readingsOf m slots) letter = none := by
    rw [numberOf?, hreading, Option.map_none]
  have hisoYear : numberOf? (readingsOf m slots) 'G' = none :=
    hnone (reading?_readingsOf h (by decide))
  have hweek : numberOf? (readingsOf m slots) 'V' = none :=
    hnone (reading?_readingsOf h (by decide))
  have hdayOfYear : numberOf? (readingsOf m slots) 'j' = none :=
    hnone (reading?_readingsOf h (by decide))
  simp only [readDay, hmonth, hday, hweekday, hyear, checkNumberedWeek, numberedDay, hisoYear,
    hweek, hdayOfYear, bind, Except.bind, Option.getD_some]
  exact dayOf_day m.day

/-- The readings of the six slots, in any order, are those of the moment to the second. -/
lemma ofReadings_readingsOf (h : slots.Perm Slot.all) :
    ofReadings (readingsOf m slots) = .ok (⟨m.day, wholeSeconds m.clock⟩, none) := by
  have hoffset : readOffset (readingsOf m slots) = .ok none := by
    have hreading : reading? (readingsOf m slots) 'z' = none := reading?_readingsOf h (by decide)
    rw [readOffset, hreading]
  have hhour : readHour (readingsOf m slots) = m.clock.hour := by
    have hlast : lastReading? (readingsOf m slots) ['H', 'I'] = some ('H', Slot.hour.digits m) :=
      lastReading?_readingsOf h (by decide)
    rw [readHour, hlast]
    exact Slot.hour.digitsValue_digits m
  have hminute : numberOf? (readingsOf m slots) 'M' = some m.clock.minute :=
    numberOf?_of_reading (p := .minute) (reading?_readingsOf h (by decide))
  have hsecond : numberOf? (readingsOf m slots) 'S' = some m.clock.second :=
    numberOf?_of_reading (p := .second) (reading?_readingsOf h (by decide))
  have hfraction : readFraction (readingsOf m slots) = 0 := by
    have hreading : reading? (readingsOf m slots) 'f' = none := reading?_readingsOf h (by decide)
    rw [readFraction, hreading]
  simp only [ofReadings, hoffset, readDay_readingsOf h, hhour, hminute, hsecond, hfraction, bind,
    Except.bind, Option.getD_some, clockOf_clock]
  rfl

end

/-! ### There and back -/

lemma allDistinct_iff {letters : List Char} : allDistinct letters ↔ letters.Nodup := by
  induction letters with
  | nil => simp [allDistinct]
  | cons c letters ih => simp [allDistinct, ih]

lemma Slot.directive_injective : Function.Injective Slot.directive := by
  intro p q h
  cases p <;> cases q <;> first | rfl | exact absurd h (by decide)

/-- The elements of a template are those that are found from its start. -/
lemma elements_eq_ok_iff {template : List Char} {es : List Element} :
    elements template = .ok es ↔
      elementsFrom false template = .ok es ∧ (directivesOf es).Nodup := by
  rw [elements, except_bind_eq_ok]
  constructor
  · rintro ⟨es', hes', h⟩
    split at h
    · next hdistinct =>
        obtain rfl := Except.ok.inj h
        exact ⟨hes', allDistinct_iff.mp hdistinct⟩
    · cases h
  · rintro ⟨hes, hdistinct⟩
    exact ⟨es, hes, if_pos (allDistinct_iff.mpr hdistinct)⟩

/-- **Written moments.**  A moment that is written in a format of the six slots, in any order and
with any text around them, is read back to the second, provided that no percent sign stands outside
brackets.  If one does, what is written in the format is not read in it. -/
theorem parse_format {items : List Item} (hslots : (slotsOf items).Perm Slot.all) (m : Moment)
    (offset : Option Int) :
    ∃ text, m.format offset (formatOf items) = .ok text ∧
      (Item.percent ∉ items →
        parse text (formatOf items) = .ok (⟨m.day, wholeSeconds m.clock⟩, none)) ∧
      (Item.percent ∈ items → ∃ e, parse text (formatOf items) = .error e) := by
  have hnodup : (slotsOf items).Nodup := hslots.nodup_iff.mpr (by decide)
  have htemplate := templateText_formatOf hnodup
  refine ⟨_, format_formatOf hnodup m offset, fun hpercent => ?_, fun hpercent => ?_⟩
  · have hatoms : Atom.percent ∉ atomsOf items := mt percent_mem_atomsOf.mp hpercent
    obtain ⟨es, hfrom, hdirectives, haccepts⟩ := exists_accepts m hatoms false
    rw [slotsOf_atomsOf] at hdirectives haccepts
    have hdistinct : (directivesOf es).Nodup := by
      rw [hdirectives]
      exact hnodup.map Slot.directive_injective
    have helements := elements_eq_ok_iff.mpr ⟨hfrom, hdistinct⟩
    have hmatch : matchElements es ((atomsOf items).flatMap (Atom.text m)) =
        some (readingsOf m (slotsOf items), []) := haccepts
    rw [parse, htemplate, parseTemplate, helements, String.toList_ofList]
    simp only [Except.mapError, bind, Except.bind, hmatch, List.isEmpty_nil, if_true]
    exact ofReadings_readingsOf hslots
  · have hatoms : Atom.percent ∈ atomsOf items := percent_mem_atomsOf.mpr hpercent
    rw [parse, htemplate, parseTemplate, String.toList_ofList]
    cases helements : elements ((atomsOf items).flatMap Atom.template) with
    | error e => exact ⟨_, rfl⟩
    | ok es =>
        have hshort : FallsShort es ((atomsOf items).flatMap (Atom.text m)) :=
          (bounded m (atomsOf items)).lone hatoms (elements_eq_ok_iff.mp helements).1
        simp only [Except.mapError, bind, Except.bind]
        split
        · exact ⟨_, rfl⟩
        · next rs rest hmatch =>
            cases rest with
            | nil => exact absurd hmatch (hshort.matchElements_ne rs)
            | cons c rest => exact ⟨_, rfl⟩

/-- Percent signs and letters between brackets, blanks and free characters of any kind, and slots
that follow one another without a break. -/
theorem parse_format_reversed :
    let m : Moment :=
      ⟨⟨2024, 2, 29, by decide, by decide, by decide, by decide, by decide, by decide⟩,
      ⟨13, 5, 9, 123456, by decide, by decide, by decide, by decide⟩⟩
    let fmt := "[100% YYYY] ssmm—HH\t DDMM..YYYY"
    let text := "100% YYYY 0905—13\t 2902..2024"
    m.format none fmt = .ok text ∧
      parse text fmt = .ok (⟨m.day, wholeSeconds m.clock⟩, none) := by
  intro m fmt text
  let items : List Item := [.bracketed "100% YYYY".toList (by decide), .free ' ' (by decide),
    .slot .second, .slot .minute, .free '—' (by decide), .slot .hour, .free '\t' (by decide),
    .free ' ' (by decide), .slot .day, .slot .month, .free '.' (by decide), .free '.' (by decide),
    .slot .year]
  have hitems : formatOf items = fmt := by decide
  have hpercent : Item.percent ∉ items := by simp [items, Item.percent]
  obtain ⟨written, hwritten, hparse, -⟩ := parse_format
    (by decide : (slotsOf items).Perm Slot.all) m none
  have htext : m.format none fmt = .ok text := by cbv
  rw [hitems] at hwritten hparse
  obtain rfl : written = text := Except.ok.inj (hwritten.symm.trans htext)
  exact ⟨htext, hparse hpercent⟩

/-- A percent sign between the year and the month takes the letter of the month with it: the moment
is written, but not read back. -/
theorem parse_lone_percent :
    let m : Moment :=
      ⟨⟨2024, 2, 29, by decide, by decide, by decide, by decide, by decide, by decide⟩,
      ⟨13, 5, 9, 0, by decide, by decide, by decide, by decide⟩⟩
    let fmt := "YYYY%MM-DD HH:mm:ss"
    let text := "2024%02-29 13:05:09"
    m.format none fmt = .ok text ∧
      parse text fmt = .error (Fault.value
        "time data '2024%02-29 13:05:09' does not match format '%Y%%m-%d %H:%M:%S'") ∧
      ¬ ∀ items : List Item, (slotsOf items).Perm Slot.all → ∀ m : Moment,
        ∃ text, m.format none (formatOf items) = .ok text ∧
          parse text (formatOf items) = .ok (⟨m.day, wholeSeconds m.clock⟩, none) := by
  intro m fmt text
  have htext : m.format none fmt = .ok text := by cbv
  have hparse : parse text fmt = .error (Fault.value
      "time data '2024%02-29 13:05:09' does not match format '%Y%%m-%d %H:%M:%S'") := by cbv
  refine ⟨htext, hparse, fun hall => ?_⟩
  let items : List Item := [.slot .year, .percent, .slot .month, .free '-' (by decide), .slot .day,
    .free ' ' (by decide), .slot .hour, .free ':' (by decide), .slot .minute, .free ':' (by decide),
    .slot .second]
  have hitems : formatOf items = fmt := by decide
  obtain ⟨written, hwritten, hback⟩ := hall items (by decide) m
  rw [hitems] at hwritten hback
  obtain rfl : written = text := Except.ok.inj (hwritten.symm.trans htext)
  cases hparse.symm.trans hback

end Sigil.Moment
