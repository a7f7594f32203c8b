/-
# Percent signs that stand alone

A percent sign outside brackets is not doubled in the template, where it takes the next character
with it.  No moment that is written in such a format is read back: each percent sign of the text
must be taken by one that the template has as a literal character, so none may be lost, and the only
way to lose none is that the letter of a slot becomes a literal character too, which is shorter than
the digits of the slot.
-/
import Sigil.Proofs.LowerCase
import Sigil.Proofs.MomentTemplates
import Sigil.Proofs.Outcome

namespace Sigil.Moment

open Sigil.Text (isBlank lowerChar sameLetter lowerRuns)

/-! ### The percent sign -/

/-- The percent sign is the lower case of itself alone. -/
lemma eq_percent_of_lowerChar {c : Char} (h : lowerChar c = '%') : c = '%' := by
  have hascii : ∀ n < 0x80, (Char.ofNat n).toLower = '%' → n = 0x25 := by decide +kernel
  have hruns : ∀ r ∈ lowerRuns, 0x25 < (r.1 : Int) + r.2.2.2 := by decide +kernel
  unfold lowerChar at h
  split at h
  · next hlt =>
      have hcode : c.toNat = 0x25 := hascii c.toNat hlt (by rwa [Char.ofNat_toNat])
      rw [← Char.ofNat_toNat c, hcode]
  · split at h
    · exact absurd h (by decide)
    · cases hfind : lowerRuns.findSome? (·.image? c.toNat) with
      | none => simpa [hfind] using h
      | some n =>
          obtain ⟨⟨first, last, step, shift⟩, hmem, himage⟩ :=
            List.exists_of_findSome?_eq_some hfind
          have hlow := hruns _ hmem
          simp only [Text.CaseRun.image?, Bool.and_eq_true, decide_eq_true_eq,
            Option.ite_none_right_eq_some, Option.some.injEq] at himage hlow
          -- What a run maps to lies above the percent sign.
          have hcode : (Char.ofNat n).toNat = 0x25 := by
            rw [hfind] at h
            exact congrArg Char.toNat h
          rw [Char.toNat_ofNat] at hcode
          split at hcode <;> omega

lemma sameLetter_percent {c d : Char} (h : sameLetter c d) : c = '%' ↔ d = '%' := by
  have hforms : ∀ forms ∈ Text.letterForms, 0x25 ∉ forms := by decide
  have hpercent : lowerChar '%' = '%' := by decide
  simp only [sameLetter, Bool.or_eq_true, beq_iff_eq, List.any_eq_true, Bool.and_eq_true,
    List.contains_eq_mem, decide_eq_true_eq] at h
  constructor
  · rintro rfl
    rcases h with h | ⟨forms, hmem, hcontains, -⟩
    · exact eq_percent_of_lowerChar (h.symm.trans hpercent)
    · rw [hpercent] at hcontains
      exact absurd hcontains (hforms forms hmem)
  · rintro rfl
    rcases h with h | ⟨forms, hmem, -, hcontains⟩
    · exact eq_percent_of_lowerChar (h.trans hpercent)
    · rw [hpercent] at hcontains
      exact absurd hcontains (hforms forms hmem)

/-! ### Weights -/

/-- The percent signs of a text. -/
def percents (s : List Char) : ℕ := s.count '%'

/-- The characters of a text that are no blanks. -/
def solid (s : List Char) : ℕ := s.countP fun c => !isBlank c

/-- The percent signs that an element takes. -/
def Element.percents : Element → ℕ
  | literal c => if c = '%' then 1 else 0
  | _ => 0

/-- The most characters beside blanks that an element takes. -/
def Element.capacity : Element → ℕ
  | literal _ => 1
  | blanks => 0
  | directive letter =>
    max (((numberShapes letter).map List.length).foldr max 0)
      (((namesOf letter).map String.length).foldr max 0)

/-- The percent signs that elements take. -/
def percentsOf (es : List Element) : ℕ := (es.map Element.percents).sum

/-- The most characters beside blanks that elements take. -/
def capacityOf (es : List Element) : ℕ := (es.map Element.capacity).sum

lemma percents_cons (s : List Char) : percents ('%' :: s) = percents s + 1 :=
  List.count_cons_self

lemma percents_append (s t : List Char) : percents (s ++ t) = percents s + percents t :=
  List.count_append

lemma solid_append (s t : List Char) : solid (s ++ t) = solid s + solid t :=
  List.countP_append

lemma percents_eq_zero {s : List Char} (h : '%' ∉ s) : percents s = 0 :=
  List.count_eq_zero.mpr h

lemma solid_le_length (s : List Char) : solid s ≤ s.length := List.countP_le_length

/-! ### What an element takes -/

section

variable {s : List Char} {n : ℕ}

lemma percent_not_mem_take_of_fits {shape : List (Char → Bool)}
    (hshape : ∀ cls ∈ shape, cls '%' = false) (h : fits shape s) :
    '%' ∉ s.take shape.length := by
  induction shape generalizing s with
  | nil => simp
  | cons cls shape ih =>
      cases s with
      | nil => simp
      | cons c s =>
          rw [fits, Bool.and_eq_true] at h
          have hcls := hshape cls List.mem_cons_self
          rw [List.length_cons, List.take_succ_cons, List.mem_cons, not_or]
          refine ⟨?_, ih (fun cls hmem => hshape cls (List.mem_cons_of_mem _ hmem)) h.2⟩
          rintro rfl
          exact absurd (h.1.symm.trans hcls) (by decide)

lemma percent_not_mem_take_of_namePrefixes {name : List Char} (hname : '%' ∉ name)
    (h : namePrefixes name s) : '%' ∉ s.take name.length := by
  induction name generalizing s with
  | nil => simp
  | cons a name ih =>
      cases s with
      | nil => simp
      | cons c s =>
          rw [namePrefixes, Bool.and_eq_true] at h
          rw [List.mem_cons, not_or] at hname
          rw [List.length_cons, List.take_succ_cons, List.mem_cons, not_or]
          refine ⟨fun hc => ?_, ih hname.2 h.2⟩
          exact hname.1 ((sameLetter_percent h.1).mpr hc.symm).symm

/-- No directive accepts a percent sign. -/
lemma shapes_spare_percent (letter : Char) :
    ∀ shape ∈ numberShapes letter, ∀ cls ∈ shape, cls '%' = false := by
  unfold numberShapes
  split <;> decide

lemma names_spare_percent (letter : Char) : ∀ name ∈ namesOf letter, '%' ∉ name.toList := by
  unfold namesOf
  simp only [List.mem_mergeSort]
  split <;> decide

/-- An element takes the percent signs that it says, and no more characters than it says. -/
lemma bounds_of_mem_lengths {e : Element} (h : n ∈ e.lengths s) :
    percents (s.take n) = e.percents ∧ solid (s.take n) ≤ e.capacity := by
  cases e with
  | literal c =>
      cases s with
      | nil => simp [Element.lengths] at h
      | cons d s =>
          simp only [Element.lengths, List.mem_ite_nil_right, List.mem_singleton] at h
          obtain ⟨hsame, rfl⟩ := h
          refine ⟨?_, solid_le_length _⟩
          have hiff := sameLetter_percent hsame
          by_cases hd : d = '%'
          · rw [Element.percents, if_pos (hiff.mpr hd), hd]
            rfl
          · rw [Element.percents, if_neg (mt hiff.mp hd), List.take_succ_cons, List.take_zero]
            exact percents_eq_zero (by simpa using Ne.symm hd)
  | blanks =>
      simp only [Element.lengths, List.mem_map, List.mem_range] at h
      obtain ⟨k, hk, rfl⟩ := h
      have hblank : ∀ c ∈ s.take ((s.takeWhile isBlank).length - k), isBlank c := by
        intro c hc
        have hstart : s.take ((s.takeWhile isBlank).length - k) <+: s.takeWhile isBlank :=
          List.prefix_of_prefix_length_le (List.take_prefix _ _) (List.takeWhile_prefix _)
            ((List.length_take_le _ _).trans (Nat.sub_le _ _))
        exact List.mem_takeWhile_imp (hstart.subset hc)
      constructor
      · refine percents_eq_zero fun hmem => ?_
        exact absurd (hblank '%' hmem) (by decide)
      · rw [solid, List.countP_eq_zero.mpr fun c hc => by simp [hblank c hc]]
        exact Nat.zero_le _
  | directive letter =>
      simp only [Element.lengths, List.mem_append, List.mem_map, List.mem_filter] at h
      rcases h with ⟨shape, ⟨hmem, hfits⟩, rfl⟩ | ⟨name, ⟨hmem, hname⟩, rfl⟩
      · refine ⟨percents_eq_zero (percent_not_mem_take_of_fits
          (shapes_spare_percent letter shape hmem) hfits), ?_⟩
        have hlength : (s.take shape.length).length ≤ shape.length := List.length_take_le _ _
        have hmax : shape.length ≤ ((numberShapes letter).map List.length).foldr max 0 :=
          List.le_max_of_le' 0 (List.mem_map_of_mem hmem) le_rfl
        exact (solid_le_length _).trans (hlength.trans (hmax.trans (le_max_left _ _)))
      · refine ⟨percents_eq_zero (percent_not_mem_take_of_namePrefixes
          (names_spare_percent letter name hmem) hname), ?_⟩
        have hlength : (s.take name.length).length ≤ name.length := List.length_take_le _ _
        have hmax : name.length ≤ ((namesOf letter).map String.length).foldr max 0 :=
          List.le_max_of_le' 0 (List.mem_map_of_mem hmem) le_rfl
        exact (solid_le_length _).trans (hlength.trans (hmax.trans (le_max_right _ _)))

end

/-- Elements that accept a text take all of its percent signs and have room for all of it. -/
lemma bounds_of_matchElements {es : List Element} {s rest : List Char} {rs : Readings}
    (h : matchElements es s = some (rs, rest)) :
    ∃ taken, s = taken ++ rest ∧ percents taken = percentsOf es ∧ solid taken ≤ capacityOf es := by
  induction es generalizing s rs with
  | nil =>
      obtain rfl : s = rest := congrArg Prod.snd (Option.some.inj h)
      exact ⟨[], rfl, rfl, le_rfl⟩
  | cons e es ih =>
      obtain ⟨n, hn, hmatch⟩ := List.exists_of_findSome?_eq_some h
      obtain ⟨⟨rs', rest'⟩, hrest, hpair⟩ := Option.map_eq_some_iff.mp hmatch
      obtain rfl : rest' = rest := congrArg Prod.snd hpair
      obtain ⟨taken, htaken, hpercents, hcapacity⟩ := ih hrest
      obtain ⟨hone, hroom⟩ := bounds_of_mem_lengths hn
      refine ⟨s.take n ++ taken, ?_, ?_, ?_⟩
      · rw [List.append_assoc, ← htaken, List.take_append_drop]
      · rw [percents_append, hone, hpercents, percentsOf, percentsOf, List.map_cons, List.sum_cons]
      · rw [solid_append, capacityOf, List.map_cons, List.sum_cons]
        exact Nat.add_le_add hroom hcapacity

/-! ### What a template has room for -/

lemma percentsOf_append (es es' : List Element) :
    percentsOf (es ++ es') = percentsOf es + percentsOf es' := by
  rw [percentsOf, List.map_append, List.sum_append]
  rfl

lemma percentsOf_cons (e : Element) (es : List Element) :
    percentsOf (e :: es) = e.percents + percentsOf es := percentsOf_append [e] es

lemma capacityOf_append (es es' : List Element) :
    capacityOf (es ++ es') = capacityOf es + capacityOf es' := by
  rw [capacityOf, List.map_append, List.sum_append]
  rfl

/-- The elements have as many percent signs as the text, and room for it and no more. -/
def Balanced (es : List Element) (s : List Char) : Prop :=
  percentsOf es = percents s ∧ capacityOf es = solid s

/-- The elements have fewer percent signs than the text, or as many and no more room than it
needs. -/
def NoMore (es : List Element) (s : List Char) : Prop :=
  percentsOf es < percents s ∨ (percentsOf es = percents s ∧ capacityOf es ≤ solid s)

/-- The elements have fewer percent signs than the text, or as many and less room than it needs. -/
def FallsShort (es : List Element) (s : List Char) : Prop :=
  percentsOf es < percents s ∨ (percentsOf es = percents s ∧ capacityOf es < solid s)

section

variable {es es' : List Element} {s s' : List Char}

lemma FallsShort.noMore (h : FallsShort es s) : NoMore es s :=
  h.imp_right fun ⟨heq, hlt⟩ => ⟨heq, hlt.le⟩

lemma Balanced.noMore (h : Balanced es s) (h' : NoMore es' s') : NoMore (es ++ es') (s ++ s') := by
  obtain ⟨hpercents, hcapacity⟩ := h
  rw [NoMore, percentsOf_append, capacityOf_append, percents_append, solid_append]
  rw [NoMore] at h'
  omega

lemma Balanced.fallsShort (h : Balanced es s) (h' : FallsShort es' s') :
    FallsShort (es ++ es') (s ++ s') := by
  obtain ⟨hpercents, hcapacity⟩ := h
  rw [FallsShort, percentsOf_append, capacityOf_append, percents_append, solid_append]
  rw [FallsShort] at h'
  omega

/-- Elements that fall short of a text do not accept it. -/
lemma FallsShort.matchElements_ne (h : FallsShort es s) (rs : Readings) :
    matchElements es s ≠ some (rs, []) := by
  intro hmatch
  obtain ⟨taken, rfl, hpercents, hcapacity⟩ := bounds_of_matchElements hmatch
  rw [FallsShort, List.append_nil] at h
  omega

lemma balanced_literal {c : Char} (hc : isBlank c = false) : Balanced [.literal c] [c] := by
  constructor
  · by_cases hpercent : c = '%'
    · subst hpercent
      rfl
    · rw [percents_eq_zero (by simpa using Ne.symm hpercent)]
      simp [percentsOf, Element.percents, hpercent]
  · simp [capacityOf, Element.capacity, solid, hc]

lemma balanced_blank {c : Char} (hc : isBlank c) : Balanced [] [c] ∧ Balanced [.blanks] [c] := by
  have hpercents : percents [c] = 0 := by
    refine percents_eq_zero fun hmem => ?_
    rw [← List.mem_singleton.mp hmem] at hc
    exact absurd hc (by decide)
  have hsolid : solid [c] = 0 := by simp [solid, hc]
  exact ⟨⟨hpercents.symm, hsolid.symm⟩, ⟨hpercents.symm, hsolid.symm⟩⟩

lemma percents_digits (m : Moment) (p : Slot) : percents (p.digits m) = 0 :=
  percents_eq_zero fun hmem => absurd (p.isAsciiDigit_of_mem_digits m hmem) (by decide)

lemma solid_digits (m : Moment) (p : Slot) : solid (p.digits m) = p.width := by
  have hall : ∀ c ∈ p.digits m, (!isBlank c) = true := fun c hc => by
    rw [Decimal.isBlank_of_isAsciiDigit (p.isAsciiDigit_of_mem_digits m hc), Bool.not_false]
  rw [solid, List.countP_eq_length.mpr hall, p.length_digits m]

lemma balanced_slot (m : Moment) (p : Slot) :
    Balanced [.directive p.directive] (p.digits m) := by
  have hcapacity : (Element.directive p.directive).capacity = p.width := by
    have hnames : namesOf p.directive = [] := by cases p <;> exact List.mergeSort_nil
    rw [Element.capacity, hnames]
    cases p <;> decide
  refine ⟨(percents_digits m p).symm, ?_⟩
  rw [solid_digits, ← hcapacity]
  exact Nat.add_zero _

end

/-- A character that is no percent sign adds what it has room for itself. -/
lemma exists_balanced_of_char {c : Char} (hc : c ≠ '%') {afterBlank : Bool} {rest : List Char}
    {es : List Element} (h : elementsFrom afterBlank (c :: rest) = .ok es) :
    ∃ first es' afterBlank', es = first ++ es' ∧ Balanced first [c] ∧
      elementsFrom afterBlank' rest = .ok es' := by
  rw [elementsFrom_char hc] at h
  cases hblank : isBlank c with
  | false =>
      rw [if_neg (by simp [hblank])] at h
      obtain ⟨es', hes', rfl⟩ := except_map_eq_ok.mp h
      exact ⟨[.literal c], es', false, rfl, balanced_literal hblank, hes'⟩
  | true =>
      rw [if_pos hblank] at h
      obtain ⟨es', hes', rfl⟩ := except_map_eq_ok.mp h
      obtain ⟨hrun, hblanks⟩ := balanced_blank hblank
      cases afterBlank with
      | true => exact ⟨[], es', true, rfl, hrun, hes'⟩
      | false => exact ⟨[.blanks], es', true, rfl, hblanks, hes'⟩

/-- Beside a percent sign that stands alone, an atom adds what it has room for itself. -/
lemma exists_balanced {atom : Atom} (hatom : atom ≠ .percent) (m : Moment) {afterBlank : Bool}
    {rest : List Char} {es : List Element}
    (h : elementsFrom afterBlank (atom.template ++ rest) = .ok es) :
    ∃ first es' afterBlank', es = first ++ es' ∧ Balanced first (atom.text m) ∧
      elementsFrom afterBlank' rest = .ok es' := by
  cases atom with
  | char c =>
      by_cases hpercent : c = '%'
      · subst hpercent
        obtain ⟨es', hes', rfl⟩ := except_map_eq_ok.mp ((elementsFrom_doubled _ _).symm.trans h)
        exact ⟨[.literal '%'], es', false, rfl, balanced_literal (by decide), hes'⟩
      · rw [Atom.template_char hpercent] at h
        exact exists_balanced_of_char hpercent h
  | percent => exact absurd rfl hatom
  | slot p =>
      obtain ⟨es', hes', rfl⟩ := except_map_eq_ok.mp ((elementsFrom_slot p _ _).symm.trans h)
      exact ⟨[.directive p.directive], es', false, rfl, balanced_slot m p, hes'⟩

/-- A percent sign before another character is lost with it, whatever they mean. -/
lemma elementsFrom_percent {c : Char} (hc : c ≠ '%') {afterBlank : Bool} {rest : List Char}
    {es : List Element} (h : elementsFrom afterBlank ('%' :: c :: rest) = .ok es) :
    ∃ es', elementsFrom false rest = .ok es' ∧ percentsOf es = percentsOf es' := by
  rw [elementsFrom.eq_3, if_neg (by simpa using hc)] at h
  split at h
  · obtain ⟨es', hes', rfl⟩ := except_map_eq_ok.mp h
    exact ⟨es', hes', Nat.zero_add _⟩
  · split at h
    · next inner hinner =>
        obtain ⟨es', hes', rfl⟩ := except_map_eq_ok.mp h
        have hnone : percentsOf (plainElements inner) = 0 := by
          unfold compound? at hinner
          split at hinner <;> first | (cases hinner; decide) | cases hinner
        exact ⟨es', hes', by rw [percentsOf_append, hnone, Nat.zero_add]⟩
    · cases h

/-- The elements of a template have room for no more than what a moment is written as.  If a percent
sign stands alone in the template, or just before it, they fall short of that. -/
structure Bounded (m : Moment) (atoms : List Atom) : Prop where
  /-- The elements have no more room. -/
  noMore {afterBlank : Bool} {es : List Element}
    (h : elementsFrom afterBlank (atoms.flatMap Atom.template) = .ok es) :
    NoMore es (atoms.flatMap (Atom.text m))
  /-- The elements fall short after a percent sign among the atoms. -/
  lone (hmem : Atom.percent ∈ atoms) {afterBlank : Bool} {es : List Element}
    (h : elementsFrom afterBlank (atoms.flatMap Atom.template) = .ok es) :
    FallsShort es (atoms.flatMap (Atom.text m))
  /-- The elements fall short after a percent sign before the atoms. -/
  pending {afterBlank : Bool} {es : List Element}
    (h : elementsFrom afterBlank ('%' :: atoms.flatMap Atom.template) = .ok es) :
    FallsShort es ('%' :: atoms.flatMap (Atom.text m))

section

variable {m : Moment} {atoms : List Atom}

lemma bounded_nil (m : Moment) : Bounded m [] where
  noMore h := by
    obtain rfl := Except.ok.inj h
    exact .inr ⟨rfl, le_rfl⟩
  lone hmem := absurd hmem List.not_mem_nil
  pending h := by cases h

lemma Bounded.percent (h : Bounded m atoms) : Bounded m (.percent :: atoms) where
  noMore helements := (h.pending helements).noMore
  lone _ _ _ helements := h.pending helements
  pending helements := by
    -- The two percent signs become one literal character.
    rename_i afterBlank es
    have hdoubled : elementsFrom afterBlank ('%' :: '%' :: atoms.flatMap Atom.template) = .ok es :=
      helements
    rw [elementsFrom_doubled] at hdoubled
    obtain ⟨es', hes', rfl⟩ := except_map_eq_ok.mp hdoubled
    have hrest := h.noMore hes'
    have hliteral : (Element.literal '%').percents = 1 := rfl
    change FallsShort _ ('%' :: '%' :: atoms.flatMap (Atom.text m))
    rw [FallsShort, percentsOf_cons, hliteral, percents_cons, percents_cons]
    rw [NoMore] at hrest
    omega

/-- Before an atom that adds what it has room for itself, only a percent sign matters. -/
lemma Bounded.cons (h : Bounded m atoms) {atom : Atom} (hatom : atom ≠ .percent)
    (hpending : ∀ {afterBlank : Bool} {es : List Element},
      elementsFrom afterBlank ('%' :: (atom :: atoms).flatMap Atom.template) = .ok es →
      FallsShort es ('%' :: (atom :: atoms).flatMap (Atom.text m))) :
    Bounded m (atom :: atoms) where
  noMore helements := by
    obtain ⟨first, es', _, rfl, hfirst, hes'⟩ := exists_balanced hatom m helements
    exact hfirst.noMore (h.noMore hes')
  lone hmem _ _ helements := by
    have hatoms : Atom.percent ∈ atoms := (List.mem_cons.mp hmem).resolve_left hatom.symm
    obtain ⟨first, es', _, rfl, hfirst, hes'⟩ := exists_balanced hatom m helements
    exact hfirst.fallsShort (h.lone hatoms hes')
  pending := hpending

lemma Bounded.slot (h : Bounded m atoms) (p : Slot) : Bounded m (.slot p :: atoms) := by
  refine h.cons nofun fun helements => ?_
  -- The directive loses its percent sign, and its letter stands for itself.
  have hletter : p.directive ≠ '%' := by cases p <;> decide
  have hblank : isBlank p.directive = false := by cases p <;> decide
  have hwidth : 1 < p.width := by cases p <;> decide
  obtain ⟨es', hes', rfl⟩ := except_map_eq_ok.mp ((elementsFrom_doubled _ _).symm.trans helements)
  have hliteral := (elementsFrom_char hletter false (atoms.flatMap Atom.template)).symm.trans hes'
  rw [if_neg (by simp [hblank])] at hliteral
  obtain ⟨es'', hes'', rfl⟩ := except_map_eq_ok.mp hliteral
  have hrest := h.noMore hes''
  have hshort : FallsShort ([.literal p.directive] ++ es'')
      (p.digits m ++ atoms.flatMap (Atom.text m)) := by
    have hpercents : percentsOf [.literal p.directive] = 0 := by
      rw [(balanced_literal hblank).1, percents_eq_zero (by simpa using hletter.symm)]
    have hcapacity : capacityOf [.literal p.directive] = 1 := rfl
    rw [FallsShort, percentsOf_append, capacityOf_append, percents_append, solid_append,
      percents_digits, solid_digits, hpercents, hcapacity]
    rw [NoMore] at hrest
    omega
  have hpercent : Balanced [.literal '%'] ['%'] := balanced_literal (by decide)
  exact hpercent.fallsShort hshort

lemma Bounded.char (h : Bounded m atoms) (c : Char) : Bounded m (.char c :: atoms) := by
  refine h.cons nofun fun helements => ?_
  by_cases hpercent : c = '%'
  · -- Of the three percent signs two become a literal character, and one is left over.
    subst hpercent
    have hliteral : Balanced [.literal '%'] ['%'] := balanced_literal (by decide)
    obtain ⟨es', hes', rfl⟩ :=
      except_map_eq_ok.mp ((elementsFrom_doubled _ _).symm.trans helements)
    exact hliteral.fallsShort (h.pending hes')
  · -- The percent sign is lost, and the elements have fewer of them from there on.
    rw [List.flatMap_cons, Atom.template_char hpercent] at helements
    obtain ⟨es', hes', hequal⟩ := elementsFrom_percent hpercent helements
    have hrest := h.noMore hes'
    have hchar : percents (c :: atoms.flatMap (Atom.text m)) =
        percents (atoms.flatMap (Atom.text m)) := List.count_cons_of_ne hpercent
    change FallsShort _ ('%' :: c :: atoms.flatMap (Atom.text m))
    rw [FallsShort, percents_cons, hchar, hequal]
    rw [NoMore] at hrest
    omega

lemma bounded (m : Moment) (atoms : List Atom) : Bounded m atoms := by
  induction atoms with
  | nil => exact bounded_nil m
  | cons atom atoms ih =>
      cases atom with
      | char c => exact ih.char c
      | percent => exact ih.percent
      | slot p => exact ih.slot p

end

end Sigil.Moment
