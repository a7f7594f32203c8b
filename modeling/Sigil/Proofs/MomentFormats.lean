/-
# Formats of numbers

A format that names the year, the month, the day, the hour, the minute and the second, with text in
brackets and free characters around them.  The letters of a slot are not confused with what follows
them as long as no slot is named twice, so the pieces of the format are its items, and a moment is
written by writing each of them.
-/
import Sigil.Moment.Parse
import Sigil.Proofs.JsonNumbers

namespace Sigil.Moment

open Sigil.Decimal (digitsValue natDigits padZeros)
open Sigil.Text (isDigit digitValue?)
open Sigil.Json (isAsciiDigit)

/-! ### Digits -/

/-- Leading zeros do not change the number that digits are read as. -/
lemma digitsValue_padZeros (width n : ℕ) : digitsValue (padZeros width (natDigits n)) = n := by
  have hzeros (k : ℕ) (s : List Char) :
      digitsValue (List.replicate k '0' ++ s) = digitsValue s := by
    have hzero : (digitValue? '0').getD 0 = 0 := by decide
    induction k with
    | zero => rfl
    | succ k ih =>
        rw [List.replicate_succ, List.cons_append, digitsValue, List.foldl_cons, hzero]
        exact ih
  rw [padZeros, hzeros, Decimal.digitsValue_natDigits]

/-! ### Slots -/

/-- A part of a moment that is written with a fixed number of digits. -/
inductive Slot where
  /-- The year. -/
  | year
  /-- The month. -/
  | month
  /-- The day. -/
  | day
  /-- The hour. -/
  | hour
  /-- The minute. -/
  | minute
  /-- The second. -/
  | second
deriving Repr, DecidableEq

namespace Slot

/-- All slots. -/
def all : List Slot := [year, month, day, hour, minute, second]

/-- The part that a slot is for. -/
def part : Slot → Part
  | year => .year
  | month => .month
  | day => .day
  | hour => .hour
  | minute => .minute
  | second => .second

/-- The letter that a slot is written with in a format. -/
def letter : Slot → Char
  | year => 'Y'
  | month => 'M'
  | day => 'D'
  | hour => 'H'
  | minute => 'm'
  | second => 's'

/-- The letter of the directive that reads a slot. -/
def directive : Slot → Char
  | year => 'Y'
  | month => 'm'
  | day => 'd'
  | hour => 'H'
  | minute => 'M'
  | second => 'S'

/-- The number of digits of a slot. -/
def width : Slot → ℕ
  | year => 4
  | _ => 2

/-- The number in a slot of a moment. -/
def value (m : Moment) : Slot → ℕ
  | year => m.day.year
  | month => m.day.month
  | day => m.day.day
  | hour => m.clock.hour
  | minute => m.clock.minute
  | second => m.clock.second

/-- The digits in a slot of a moment. -/
def digits (m : Moment) (p : Slot) : List Char := padZeros p.width (natDigits (p.value m))

variable (m : Moment) (p : Slot)

lemma head?_letters : p.part.letters.head? = some p.letter := by
  cases p <;> rfl

lemma letter_injective : Function.Injective letter := by
  intro p q h
  cases p <;> cases q <;> first | rfl | exact absurd h (by decide)

lemma directive?_part : p.part.directive? = some p.directive := by
  cases p <;> rfl

lemma render_part (offset : Option Int) :
    p.part.render m offset = .ok (String.ofList (p.digits m)) := by
  cases p <;> rfl

lemma daysInMonth_le (year month : ℕ) : daysInMonth year month ≤ 31 := by
  unfold daysInMonth
  split
  · split <;> omega
  · split <;> omega

lemma value_lt : p.value m < 10 ^ p.width := by
  have hyear := m.day.year_le
  have hmonth := m.day.month_le
  have hday := m.day.day_le.trans (daysInMonth_le _ _)
  have hhour := m.clock.hour_lt
  have hminute := m.clock.minute_lt
  have hsecond := m.clock.second_lt
  cases p <;> simp only [value, width] <;> omega

lemma length_digits : (p.digits m).length = p.width := by
  have hlength : (natDigits (p.value m)).length ≤ p.width :=
    Nat.toDigits_length 10 _ _ (by cases p <;> decide) (value_lt m p)
  rw [digits, padZeros, List.length_append, List.length_replicate]
  omega

lemma isAsciiDigit_of_mem_digits {c : Char} (h : c ∈ p.digits m) : isAsciiDigit c :=
  Json.isAsciiDigit_of_mem_padZeros h

lemma digitsValue_digits : digitsValue (p.digits m) = p.value m :=
  digitsValue_padZeros p.width (p.value m)

end Slot

/-! ### Items -/

/-- A character that stands for itself in every format: it is no bracket, and no part of a moment is
written with it. -/
def isFree (c : Char) : Bool :=
  c != '[' && c != ']' && partLetters.all fun (letters, _) => !letters.toList.contains c

/-- An item of a format. -/
inductive Item where
  /-- The letters of a slot. -/
  | slot (p : Slot)
  /-- Text between brackets. -/
  | bracketed (text : List Char) (h : ']' ∉ text)
  /-- A free character. -/
  | free (c : Char) (h : isFree c)

namespace Item

/-- The item as it is written in a format. -/
def written : Item → List Char
  | slot p => p.part.letters
  | bracketed text _ => '[' :: (text ++ [']'])
  | free c _ => [c]

/-- The piece of a format that the item is. -/
def piece : Item → Piece
  | slot p => .part p.part
  | bracketed text _ => .bracketed text
  | free c _ => .literal c

/-- The slot of an item. -/
def slot? : Item → Option Slot
  | slot p => some p
  | _ => none

/-- A percent sign outside brackets. -/
def percent : Item := free '%' (by decide)

end Item

/-- The slots of items. -/
def slotsOf (items : List Item) : List Slot := items.filterMap Item.slot?

/-- The format of items. -/
def formatOf (items : List Item) : String := String.ofList (items.flatMap Item.written)

/-! ### The pieces of a format -/

lemma piecesFrom_skip (taken rest : List Char) :
    piecesFrom taken.length (taken ++ rest) = piecesFrom 0 rest := by
  induction taken with
  | nil => rfl
  | cons c taken ih => exact ih

lemma pieces_append {c : Char} {more rest : List Char} {p : Piece}
    (h : pieceAt c (more ++ rest) = (p, more.length + 1)) :
    pieces (c :: (more ++ rest)) = p :: pieces rest := by
  rw [pieces, piecesFrom, h]
  exact congrArg (p :: ·) (piecesFrom_skip more rest)

lemma pieceAt_free {c : Char} (h : isFree c) (rest : List Char) :
    pieceAt c rest = (.literal c, 1) := by
  simp only [isFree, Bool.and_eq_true, bne_iff_ne, List.all_eq_true, Bool.not_eq_true',
    List.contains_eq_mem, decide_eq_false_iff_not] at h
  obtain ⟨⟨hopening, -⟩, hletters⟩ := h
  have hnone : partLetters.find? (fun entry => entry.1.toList.isPrefixOf (c :: rest)) = none := by
    rw [List.find?_eq_none]
    rintro ⟨letters, p⟩ hmem hstart
    have hne : ∀ entry ∈ partLetters, entry.1.toList ≠ [] := by decide
    obtain ⟨d, more, hd⟩ := List.exists_cons_of_ne_nil (hne _ hmem)
    have hfree := hletters _ hmem
    simp only [hd, List.isPrefixOf_cons_cons, Bool.and_eq_true, beq_iff_eq] at hstart hfree
    exact hfree (hstart.1 ▸ List.mem_cons_self)
  have hbracket : (if c == '[' then bracketText? rest else none) = none :=
    if_neg (by simpa using hopening)
  simp only [pieceAt, hbracket, hnone]

lemma pieceAt_bracketed {text : List Char} (h : ']' ∉ text) (rest : List Char) :
    pieceAt '[' (text ++ ']' :: rest) = (.bracketed text, text.length + 2) := by
  have hinner : ∀ c ∈ text, (c != ']') = true := by
    intro c hc
    rw [bne_iff_ne]
    rintro rfl
    exact h hc
  have htext : bracketText? (text ++ ']' :: rest) = some text := by
    rw [bracketText?, List.takeWhile_append_of_pos hinner]
    simp
  have hbracket : (if '[' == '[' then bracketText? (text ++ ']' :: rest) else none) = some text :=
    htext
  simp only [pieceAt, hbracket]

/-- The letters of a slot are taken for it unless the same letter follows them. -/
lemma pieces_slot {p : Slot} {rest : List Char} (h : rest.head? ≠ some p.letter) :
    pieces (p.part.letters ++ rest) = .part p.part :: pieces rest := by
  cases p with
  | year => exact pieces_append rfl
  | month =>
      -- The letters of the names of months begin with those of the slot.
      have hpiece : pieceAt 'M' ('M' :: rest) = (.part .month, 2) := by
        cases rest with
        | nil => rfl
        | cons d rest =>
            have hd : 'M' ≠ d := fun heq => h (congrArg some heq.symm)
            simp [pieceAt, partLetters, List.isPrefixOf, hd]
            rfl
      exact pieces_append hpiece
  | day =>
      -- The letters of the day of the year begin with those of the slot.
      have hpiece : pieceAt 'D' ('D' :: rest) = (.part .day, 2) := by
        cases rest with
        | nil => rfl
        | cons d rest =>
            have hd : 'D' ≠ d := fun heq => h (congrArg some heq.symm)
            simp [pieceAt, partLetters, List.isPrefixOf, hd]
            rfl
      exact pieces_append hpiece
  | hour => exact pieces_append rfl
  | minute => exact pieces_append rfl
  | second => exact pieces_append rfl

/-- Only the slot itself begins with its letter. -/
lemma head?_flatMap_written {p : Slot} {items : List Item} (h : p ∉ slotsOf items) :
    (items.flatMap Item.written).head? ≠ some p.letter := by
  cases items with
  | nil => exact nofun
  | cons item items =>
      rw [List.flatMap_cons, List.head?_append]
      cases item with
      | slot q =>
          have hne : q ≠ p := by
            rintro rfl
            exact h (by simp [slotsOf, Item.slot?])
          rw [Item.written, Slot.head?_letters, Option.some_or]
          exact fun heq => hne (Slot.letter_injective (Option.some.inj heq))
      | bracketed text htext =>
          change some '[' ≠ some p.letter
          cases p <;> decide
      | free c hc =>
          have hletter : isFree p.letter = false := by cases p <;> decide
          change some c ≠ some p.letter
          intro heq
          rw [Option.some.inj heq, hletter] at hc
          exact absurd hc Bool.false_ne_true

/-- The pieces of a format are its items, if no slot is named twice. -/
lemma pieces_flatMap_written {items : List Item} (h : (slotsOf items).Nodup) :
    pieces (items.flatMap Item.written) = items.map Item.piece := by
  induction items with
  | nil => rfl
  | cons item items ih =>
      rw [List.flatMap_cons, List.map_cons]
      cases item with
      | slot p =>
          have hnodup : (p :: slotsOf items).Nodup := h
          obtain ⟨hnot, hrest⟩ := List.nodup_cons.mp hnodup
          rw [Item.written, pieces_slot (head?_flatMap_written hnot), ih hrest]
          rfl
      | bracketed text htext =>
          have hpiece : pieceAt '[' ((text ++ [']']) ++ items.flatMap Item.written) =
              (.bracketed text, (text ++ [']']).length + 1) := by
            rw [List.append_assoc, List.length_append]
            exact pieceAt_bracketed htext _
          rw [← ih h]
          exact pieces_append hpiece
      | free c hc =>
          have hpiece : pieceAt c ([] ++ items.flatMap Item.written) = (.literal c, 1) :=
            pieceAt_free hc _
          rw [← ih h]
          exact pieces_append hpiece

/-! ### Atoms -/

/-- The smallest parts of a format. -/
inductive Atom where
  /-- A character that stands for itself in the format and in its template. -/
  | char (c : Char)
  /-- A percent sign that is not doubled in the template. -/
  | percent
  /-- A slot. -/
  | slot (p : Slot)
deriving Repr, DecidableEq

/-- The atoms of an item: a percent sign is doubled only between brackets. -/
def Item.atoms : Item → List Atom
  | slot p => [.slot p]
  | bracketed text _ => text.map .char
  | free c _ => [if c = '%' then .percent else .char c]

namespace Atom

/-- What an atom is written as for a moment. -/
def text (m : Moment) : Atom → List Char
  | char c => [c]
  | percent => ['%']
  | slot p => p.digits m

/-- What an atom is in a template. -/
def template : Atom → List Char
  | char c => if c == '%' then ['%', '%'] else [c]
  | percent => ['%']
  | slot p => ['%', p.directive]

lemma template_char {c : Char} (hc : c ≠ '%') : (char c).template = [c] :=
  if_neg (by simpa using hc)

/-- The slot of an atom. -/
def slot? : Atom → Option Slot
  | slot p => some p
  | _ => none

end Atom

/-- The atoms of items. -/
def atomsOf (items : List Item) : List Atom := items.flatMap Item.atoms

lemma slotsOf_atomsOf (items : List Item) :
    (atomsOf items).filterMap Atom.slot? = slotsOf items := by
  have hitem (item : Item) : item.atoms.filterMap Atom.slot? = item.slot?.toList := by
    cases item with
    | slot p => rfl
    | bracketed text h =>
        rw [Item.atoms, List.filterMap_map]
        exact List.filterMap_eq_nil_iff.mpr fun c _ => rfl
    | free c h =>
        rw [Item.atoms]
        split <;> rfl
  rw [atomsOf, List.filterMap_flatMap, List.flatMap_congr fun item _ => hitem item, slotsOf,
    List.filterMap_eq_flatMap_toList]

lemma percent_mem_atomsOf {items : List Item} :
    Atom.percent ∈ atomsOf items ↔ Item.percent ∈ items := by
  have hitem (item : Item) : Atom.percent ∈ item.atoms ↔ item = .percent := by
    cases item with
    | slot p => simp [Item.atoms, Item.percent]
    | bracketed text h => simp [Item.atoms, Item.percent]
    | free c h =>
        by_cases hc : c = '%'
        · subst hc
          simp [Item.atoms, Item.percent]
        · simp [Item.atoms, Item.percent, hc]
  rw [atomsOf, List.mem_flatMap]
  constructor
  · rintro ⟨item, hmem, hpercent⟩
    exact (hitem item).mp hpercent ▸ hmem
  · exact fun hmem => ⟨_, hmem, (hitem _).mpr rfl⟩

/-! ### The text and the template of a format -/

lemma join_map_ofList (parts : List (List Char)) :
    String.join (parts.map String.ofList) = String.ofList parts.flatten := by
  have happend (parts : List (List Char)) (s : List Char) :
      (parts.map String.ofList).foldl (· ++ ·) (String.ofList s) =
        String.ofList (s ++ parts.flatten) := by
    induction parts generalizing s with
    | nil => simp
    | cons part parts ih =>
        rw [List.map_cons, List.foldl_cons, ← String.ofList_append, ih, List.flatten_cons,
          List.append_assoc]
  exact happend parts []

/-- A moment is written by writing the atoms of the format. -/
lemma format_formatOf {items : List Item} (h : (slotsOf items).Nodup) (m : Moment)
    (offset : Option Int) :
    m.format offset (formatOf items) =
      .ok (String.ofList ((atomsOf items).flatMap (Atom.text m))) := by
  have hitem (item : Item) : item.piece.render m offset =
      .ok (String.ofList (item.atoms.flatMap (Atom.text m))) := by
    cases item with
    | slot p =>
        rw [Item.piece, Item.atoms, List.flatMap_singleton]
        exact Slot.render_part m p offset
    | bracketed text h => simp [Item.piece, Item.atoms, Piece.render, List.flatMap_map, Atom.text]
    | free c h =>
        by_cases hc : c = '%'
        · subst hc
          rfl
        · rw [Item.atoms, if_neg hc]
          rfl
  have hitems (items : List Item) : (items.map Item.piece).mapM (·.render m offset) =
      .ok ((items.map fun item => item.atoms.flatMap (Atom.text m)).map String.ofList) := by
    induction items with
    | nil => rfl
    | cons item items ih =>
        rw [List.map_cons, List.mapM_cons, hitem, ih]
        rfl
  rw [format, formatOf, String.toList_ofList, pieces_flatMap_written h, hitems, atomsOf,
    List.flatMap_assoc, List.flatMap_def, ← join_map_ofList]
  rfl

/-- The template of a format is that of its atoms. -/
lemma templateText_formatOf {items : List Item} (h : (slotsOf items).Nodup) :
    templateText (formatOf items).toList = (atomsOf items).flatMap Atom.template := by
  have hitem (item : Item) : item.piece.template = item.atoms.flatMap Atom.template := by
    cases item with
    | slot p =>
        rw [Item.piece, Item.atoms, List.flatMap_singleton, Piece.template, Slot.directive?_part]
        rfl
    | bracketed text h => rw [Item.piece, Item.atoms, List.flatMap_map]; rfl
    | free c h =>
        by_cases hc : c = '%'
        · subst hc
          rfl
        · rw [Item.atoms, if_neg hc, List.flatMap_singleton, Atom.template_char hc]
          rfl
  rw [templateText, formatOf, String.toList_ofList, pieces_flatMap_written h, List.flatMap_map,
    atomsOf, List.flatMap_assoc]
  exact List.flatMap_congr fun item _ => hitem item

end Sigil.Moment
