/-
# Templates of numbers

Where every percent sign of a format is doubled in its template, the template accepts what a moment
is written as: each element takes, as its first preference, what its own atom was written as.  A
slot is written with as many digits as its directive takes at most, and no other element is in doubt
but a run of blanks, which takes all of them, since neither a digit nor the literal character after
the run is a blank.
-/
import Sigil.Proofs.MomentFormats

namespace Sigil.Moment

open Sigil.Decimal (natDigits padZeros)
open Sigil.Text (isBlank isDigit lowerChar sameLetter)

/-! ### Elements of a template -/

lemma elementsFrom_doubled (afterBlank : Bool) (rest : List Char) :
    elementsFrom afterBlank ('%' :: '%' :: rest) =
      (elementsFrom false rest).map (.literal '%' :: ·) := by
  rw [elementsFrom.eq_3]
  rfl

lemma elementsFrom_char {c : Char} (hc : c ≠ '%') (afterBlank : Bool) (rest : List Char) :
    elementsFrom afterBlank (c :: rest) =
      if isBlank c then
        (elementsFrom true rest).map fun es => if afterBlank then es else .blanks :: es
      else (elementsFrom false rest).map (.literal c :: ·) := by
  rw [elementsFrom.eq_4]
  · exact fun heq => absurd heq hc
  · exact fun _ _ heq => absurd heq hc

lemma elementsFrom_slot (p : Slot) (afterBlank : Bool) (rest : List Char) :
    elementsFrom afterBlank ('%' :: p.directive :: rest) =
      (elementsFrom false rest).map (.directive p.directive :: ·) := by
  cases p <;> exact elementsFrom.eq_3 ..

/-! ### First preferences -/

section

variable {e : Element} {es : List Element} {s rest : List Char} {rs : Readings} {n : ℕ}

/-- If the first preference of an element leads to the end, it is taken. -/
lemma matchElements_first (hfirst : (e.lengths s).head? = some n)
    (hmatch : matchElements es (s.drop n) = some (rs, rest)) :
    matchElements (e :: es) s = some (e.reading (s.take n) ++ rs, rest) := by
  obtain ⟨more, hlengths⟩ := List.head?_eq_some_iff.mp hfirst
  rw [matchElements, hlengths, List.findSome?_cons, hmatch]
  rfl

lemma head?_lengths_literal (c : Char) (rest : List Char) :
    ((Element.literal c).lengths (c :: rest)).head? = some 1 := by
  have hsame : sameLetter c c := by simp [sameLetter]
  simp [Element.lengths, hsame]

lemma head?_lengths_blanks {c : Char} (hc : isBlank c) (rest : List Char) :
    (Element.blanks.lengths (c :: rest)).head? =
      some ((c :: rest).takeWhile isBlank).length := by
  simp [Element.lengths, hc, List.range_succ_eq_map]

lemma fits_append {shape : List (Char → Bool)} {t : List Char} (h : shape.length ≤ t.length)
    (rest : List Char) : fits shape (t ++ rest) = fits shape t := by
  induction shape generalizing t with
  | nil => cases t <;> rfl
  | cons cls shape ih =>
      cases t with
      | nil => simp at h
      | cons c t =>
          have hlength : shape.length ≤ t.length := by simpa using h
          rw [List.cons_append, fits, fits, ih hlength]

end

section

variable (m : Moment) (p : Slot)

/-- The directives of two digits with the range of the numbers that they read. -/
def twoDigitRanges : List (Char × ℕ × ℕ) :=
  [('m', 1, 13), ('d', 1, 32), ('H', 0, 24), ('M', 0, 60), ('S', 0, 60)]

/-- A number in the range of a directive is taken with both digits: shorter shapes come later. -/
lemma head?_shapes_two_digits {letter : Char} {low high n : ℕ}
    (h : (letter, low, high) ∈ twoDigitRanges) (hlow : low ≤ n) (hhigh : n < high) :
    (((numberShapes letter).filter (fits · (padZeros 2 (natDigits n)))).map List.length).head? =
      some 2 := by
  have hall : ∀ r ∈ twoDigitRanges, ∀ n < r.2.2, r.2.1 ≤ n → (((numberShapes r.1).filter
      (fits · (padZeros 2 (natDigits n)))).map List.length).head? = some 2 := by decide
  exact hall _ h n hhigh hlow

/-- The first shape of a directive that fits the digits of its slot takes all of them. -/
lemma head?_shapes_digits :
    (((numberShapes p.directive).filter (fits · (p.digits m))).map List.length).head? =
      some p.width := by
  cases p with
  | year =>
      obtain ⟨a, b, c, d, hdigits⟩ := List.length_eq_four.mp (Slot.year.length_digits m)
      have hdigit : ∀ x ∈ [a, b, c, d], isDigit x := fun x hx =>
        Decimal.isDigit_of_isAsciiDigit (Slot.isAsciiDigit_of_mem_digits m .year (hdigits ▸ hx))
      have hfits : fits [isDigit, isDigit, isDigit, isDigit] [a, b, c, d] := by
        simpa [fits] using hdigit
      have hshapes : numberShapes (Slot.directive .year) = [[isDigit, isDigit, isDigit, isDigit]] :=
        rfl
      rw [hshapes, hdigits, List.filter_cons, if_pos hfits]
      rfl
  | month =>
      have hrange : ('m', 1, 13) ∈ twoDigitRanges := by decide
      exact head?_shapes_two_digits hrange m.day.month_pos (Nat.lt_succ_of_le m.day.month_le)
  | day =>
      have hrange : ('d', 1, 32) ∈ twoDigitRanges := by decide
      have hle : m.day.day ≤ 31 := m.day.day_le.trans (Slot.daysInMonth_le _ _)
      exact head?_shapes_two_digits hrange m.day.day_pos (Nat.lt_succ_of_le hle)
  | hour =>
      have hrange : ('H', 0, 24) ∈ twoDigitRanges := by decide
      exact head?_shapes_two_digits hrange (Nat.zero_le _) m.clock.hour_lt
  | minute =>
      have hrange : ('M', 0, 60) ∈ twoDigitRanges := by decide
      exact head?_shapes_two_digits hrange (Nat.zero_le _) m.clock.minute_lt
  | second =>
      have hrange : ('S', 0, 60) ∈ twoDigitRanges := by decide
      exact head?_shapes_two_digits hrange (Nat.zero_le _) m.clock.second_lt

lemma head?_lengths_digits (rest : List Char) :
    ((Element.directive p.directive).lengths (p.digits m ++ rest)).head? = some p.width := by
  have hshort : ∀ shape ∈ numberShapes p.directive, shape.length ≤ (p.digits m).length := by
    rw [p.length_digits m]
    cases p <;> decide
  have hshapes : (numberShapes p.directive).filter (fits · (p.digits m ++ rest)) =
      (numberShapes p.directive).filter (fits · (p.digits m)) :=
    List.filter_congr fun shape hmem => fits_append (hshort shape hmem) rest
  rw [Element.lengths, hshapes, List.head?_append, head?_shapes_digits m p, Option.some_or]

end

/-! ### Accepted texts -/

/-- The elements accept the text as a whole, and their directives read the readings. -/
def Accepts (es : List Element) (rs : Readings) (s : List Char) : Prop :=
  matchElements es s = some (rs, [])

section

variable {es : List Element} {rs : Readings} {s : List Char}

lemma Accepts.literal (h : Accepts es rs s) (c : Char) :
    Accepts (.literal c :: es) rs (c :: s) :=
  matchElements_first (head?_lengths_literal c s) h

/-- A run of blanks is taken as a whole. -/
lemma Accepts.blanks {c : Char} (hc : isBlank c) (h : Accepts es rs (s.dropWhile isBlank)) :
    Accepts (.blanks :: es) rs (c :: s) := by
  have hrun : (c :: s).takeWhile isBlank ++ s.dropWhile isBlank = c :: s := by
    rw [List.takeWhile_cons_of_pos hc, List.cons_append, List.takeWhile_append_dropWhile]
  have hdrop : (c :: s).drop ((c :: s).takeWhile isBlank).length = s.dropWhile isBlank := by
    have hleft : ((c :: s).takeWhile isBlank ++ s.dropWhile isBlank).drop
        ((c :: s).takeWhile isBlank).length = s.dropWhile isBlank := List.drop_left' rfl
    rwa [hrun] at hleft
  have hmatch : matchElements es ((c :: s).drop ((c :: s).takeWhile isBlank).length) =
      some (rs, []) := by
    rw [hdrop]
    exact h
  exact matchElements_first (head?_lengths_blanks hc s) hmatch

lemma Accepts.slot (m : Moment) (p : Slot) (h : Accepts es rs s) :
    Accepts (.directive p.directive :: es) ((p.directive, p.digits m) :: rs) (p.digits m ++ s) := by
  have hdrop : (p.digits m ++ s).drop p.width = s := List.drop_left' (p.length_digits m)
  have htake : (p.digits m ++ s).take p.width = p.digits m := List.take_left' (p.length_digits m)
  have hmatch : matchElements es ((p.digits m ++ s).drop p.width) = some (rs, []) := by
    rw [hdrop]
    exact h
  have hfirst := matchElements_first (head?_lengths_digits m p s) hmatch
  rwa [htake] at hfirst

end

/-- What is left to be matched: a run of blanks that began before has been taken. -/
def beyond (afterBlank : Bool) (s : List Char) : List Char :=
  if afterBlank then s.dropWhile isBlank else s

lemma beyond_cons {c : Char} (hc : isBlank c = false) (afterBlank : Bool) (s : List Char) :
    beyond afterBlank (c :: s) = c :: s := by
  cases afterBlank
  · rfl
  · exact List.dropWhile_cons_of_neg (by simp [hc])

lemma beyond_digits (m : Moment) (p : Slot) (afterBlank : Bool) (s : List Char) :
    beyond afterBlank (p.digits m ++ s) = p.digits m ++ s := by
  have hne : p.digits m ≠ [] := by
    intro hnil
    have hlength := p.length_digits m
    rw [hnil] at hlength
    cases p <;> simp [Slot.width] at hlength
  obtain ⟨c, more, hdigits⟩ := List.exists_cons_of_ne_nil hne
  have hdigit := p.isAsciiDigit_of_mem_digits m (hdigits ▸ List.mem_cons_self)
  rw [hdigits, List.cons_append, beyond_cons (Decimal.isBlank_of_isAsciiDigit hdigit)]

/-- What the directives of slots read from the digits of a moment. -/
def readingsOf (m : Moment) (slots : List Slot) : Readings :=
  slots.map fun p => (p.directive, p.digits m)

/-- A template without lone percent signs has elements, and they accept what a moment is written as,
each directive its own digits. -/
lemma exists_accepts (m : Moment) {atoms : List Atom} (h : Atom.percent ∉ atoms)
    (afterBlank : Bool) :
    ∃ es, elementsFrom afterBlank (atoms.flatMap Atom.template) = .ok es ∧
      directivesOf es = (atoms.filterMap Atom.slot?).map Slot.directive ∧
      Accepts es (readingsOf m (atoms.filterMap Atom.slot?))
        (beyond afterBlank (atoms.flatMap (Atom.text m))) := by
  induction atoms generalizing afterBlank with
  | nil => cases afterBlank <;> exact ⟨[], rfl, rfl, rfl⟩
  | cons atom atoms ih =>
      have hatoms : Atom.percent ∉ atoms := fun hmem => h (List.mem_cons_of_mem _ hmem)
      obtain ⟨es, helements, hdirectives, haccepts⟩ := ih hatoms false
      rw [List.flatMap_cons, List.flatMap_cons]
      cases atom with
      | percent => exact absurd List.mem_cons_self h
      | slot p =>
          refine ⟨.directive p.directive :: es, ?_, congrArg (p.directive :: ·) hdirectives, ?_⟩
          · change elementsFrom _ ('%' :: p.directive :: atoms.flatMap Atom.template) = _
            rw [elementsFrom_slot, helements]
            rfl
          · rw [Atom.text, beyond_digits]
            exact haccepts.slot m p
      | char c =>
          by_cases hpercent : c = '%'
          · subst hpercent
            refine ⟨.literal '%' :: es, ?_, hdirectives, ?_⟩
            · change elementsFrom _ ('%' :: '%' :: atoms.flatMap Atom.template) = _
              rw [elementsFrom_doubled, helements]
              rfl
            · rw [Atom.text, List.singleton_append, beyond_cons (by decide)]
              exact haccepts.literal '%'
          rw [Atom.template_char hpercent, List.singleton_append, elementsFrom_char hpercent,
            Atom.text, List.singleton_append]
          cases hblank : isBlank c with
          | false =>
              refine ⟨.literal c :: es, ?_, hdirectives, ?_⟩
              · rw [if_neg Bool.false_ne_true, helements]
                rfl
              · rw [beyond_cons hblank]
                exact haccepts.literal c
          | true =>
              -- A blank belongs to the run before it, or begins one that is taken as a whole.
              obtain ⟨es, helements, hdirectives, haccepts⟩ := ih hatoms true
              rw [if_pos rfl, helements]
              cases afterBlank with
              | true =>
                  have hdrop : (c :: atoms.flatMap (Atom.text m)).dropWhile isBlank =
                      (atoms.flatMap (Atom.text m)).dropWhile isBlank :=
                    List.dropWhile_cons_of_pos hblank
                  refine ⟨es, rfl, hdirectives, ?_⟩
                  rw [beyond, if_pos rfl, hdrop]
                  exact haccepts
              | false => exact ⟨.blanks :: es, rfl, hdirectives, haccepts.blanks hblank⟩

end Sigil.Moment
