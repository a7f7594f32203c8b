/-
# JSON documents are read back

A value without anything but JSON in it is written to a text that is read back to it, except that
its tuples come back as lists.  What is written for a value begins neither with a blank nor with a
closing bracket, and is read to the value whatever follows, as long as this could not belong to a
number.  Blanks, commas and brackets around such texts keep this property, so it follows along the
value, in both styles.  The reader takes a step for each level of the value and each item of a
sequence, and the text has a character for each of them.
-/
import Sigil.Document.Basic
import Sigil.Proofs.Entries
import Sigil.Proofs.JsonNumbers
import Sigil.Proofs.JsonStrings
import Sigil.Proofs.Outcome
import Sigil.Proofs.Scalars

namespace Sigil

open Sigil.Text

/-- The value is made of what JSON has a form for: absent values, truth values, integers that do not
have more digits than are written, finite floats, texts, sequences, and mappings from texts. -/
inductive Value.IsJson : Value → Prop
  | null : IsJson .null
  | bool {b : Bool} : IsJson (.bool b)
  | int {n : ℤ} : n.natAbs < 10 ^ Decimal.digitLimit → IsJson (.int n)
  | float {x : Float} : Decimal.Binary.isFiniteBits x.toBits → IsJson (.float x)
  | text {s : String} : IsJson (.text s)
  | list {items : List Value} : (∀ v ∈ items, IsJson v) → IsJson (.list items)
  | tuple {items : List Value} : (∀ v ∈ items, IsJson v) → IsJson (.tuple items)
  | mapping {entries : Entries} : entries.Distinct → (∀ e ∈ entries, ∃ s, e.1 = .text s) →
      (∀ e ∈ entries, IsJson e.2) → IsJson (.mapping entries)

namespace Json

open Decimal

/-! ### Blanks -/

lemma isSpace_of_mem_lineBreak {style : Style} {depth : ℕ} {c : Char}
    (h : c ∈ style.lineBreak depth) : isSpace c := by
  cases style with
  | compact => simp [Style.lineBreak] at h
  | indented =>
      obtain rfl | h := List.mem_cons.mp h
      · decide
      · rw [List.eq_of_mem_replicate h]
        decide

/-- The reader passes over blanks up to the first other character. -/
lemma skipSpace_append {blanks s : List Char} (hblanks : ∀ c ∈ blanks, isSpace c)
    (hs : ∀ c ∈ s.head?, isSpace c = false) (offset : ℕ) :
    Cursor.skipSpace ⟨offset, blanks ++ s⟩ = ⟨offset + blanks.length, s⟩ := by
  rw [Cursor.skipSpace, takeWhile_append_stop hblanks hs, dropWhile_append_stop hblanks hs]

lemma skipSpace_lineBreak (style : Style) (depth : ℕ) {s : List Char}
    (hs : ∀ c ∈ s.head?, isSpace c = false) (offset : ℕ) :
    Cursor.skipSpace ⟨offset, style.lineBreak depth ++ s⟩ =
      ⟨offset + (style.lineBreak depth).length, s⟩ :=
  skipSpace_append (fun _ => isSpace_of_mem_lineBreak) hs offset

lemma skipSpace_self {s : List Char} (hs : ∀ c ∈ s.head?, isSpace c = false) (offset : ℕ) :
    Cursor.skipSpace ⟨offset, s⟩ = ⟨offset, s⟩ :=
  skipSpace_append (fun _ h => absurd h List.not_mem_nil) hs offset

/-! ### Scalars -/

/-- The text is read to the value, whatever follows that could not belong to a number. -/
structure Reads (text : List Char) (v : Value) : Prop where
  /-- The text begins neither with a blank nor with a closing bracket nor with a mark. -/
  opens : ∃ c more, text = c :: more ∧ isSpace c = false ∧ c ≠ ']' ∧ c ≠ '\uFEFF'
  /-- It is read if the reader may take a step for each of its characters. -/
  read : ∀ fuel offset rest, text.length ≤ fuel → Delimited rest →
    ∃ offset', readValue fuel ⟨offset, text ++ rest⟩ = .ok (v, ⟨offset', rest⟩)

/-- A scalar takes one step to read. -/
lemma Reads.of_step {text : List Char} {v : Value}
    (hopens : ∃ c more, text = c :: more ∧ isSpace c = false ∧ c ≠ ']' ∧ c ≠ '\uFEFF')
    (hread : ∀ fuel offset rest, Delimited rest →
      ∃ offset', readValue (fuel + 1) ⟨offset, text ++ rest⟩ = .ok (v, ⟨offset', rest⟩)) :
    Reads text v where
  opens := hopens
  read fuel offset rest hfuel hrest := by
    obtain ⟨c, more, rfl, -⟩ := hopens
    obtain ⟨fuel, rfl⟩ := Nat.exists_eq_add_one.mpr (Nat.zero_lt_of_lt hfuel)
    exact hread fuel offset rest hrest

lemma reads_null : Reads "null".toList .null :=
  .of_step ⟨'n', _, rfl, by decide⟩ fun _ _ _ _ => ⟨_, rfl⟩

lemma reads_true : Reads "true".toList (.bool true) :=
  .of_step ⟨'t', _, rfl, by decide⟩ fun _ _ _ _ => ⟨_, rfl⟩

lemma reads_false : Reads "false".toList (.bool false) :=
  .of_step ⟨'f', _, rfl, by decide⟩ fun _ _ _ _ => ⟨_, rfl⟩

lemma reads_text (s : String) : Reads (string s) (.text s) := by
  refine .of_step ⟨'"', _, rfl, by decide⟩ fun fuel offset rest _ => ?_
  have hread := string_read s offset rest
  have hshape : string s ++ rest = '"' :: (s.toList.flatMap stringChar ++ ['"'] ++ rest) := rfl
  rw [hshape] at hread ⊢
  exact ⟨_, by rw [readValue]; simp only [hread]; rfl⟩

/-- A word begins with no digit, not even after a minus. -/
lemma exists_cons_of_mem_words : ∀ w ∈ words, ∃ c cs, w.1.toList = c :: cs ∧
    isAsciiDigit c = false ∧ (c = '-' → ∃ c' cs', cs = c' :: cs' ∧ isAsciiDigit c' = false) := by
  have hnames : words.map (·.1) = ["null", "true", "false", "NaN", "Infinity", "-Infinity"] := rfl
  intro w hw
  have hmem : w.1 ∈ words.map (·.1) := List.mem_map_of_mem hw
  rw [hnames] at hmem
  simp only [List.mem_cons, List.not_mem_nil, or_false] at hmem
  obtain h | h | h | h | h | h := hmem <;> rw [h]
  · exact ⟨'n', _, rfl, by decide, by simp⟩
  · exact ⟨'t', _, rfl, by decide, by simp⟩
  · exact ⟨'f', _, rfl, by decide, by simp⟩
  · exact ⟨'N', _, rfl, by decide, by simp⟩
  · exact ⟨'I', _, rfl, by decide, by simp⟩
  · exact ⟨'-', _, rfl, by decide, fun _ => ⟨'I', _, rfl, by decide⟩⟩

/-- No word begins like a number. -/
lemma word?_numeral {whole fraction exponent : List Char} (h : IsNumeral whole fraction exponent)
    (negative : Bool) (offset : ℕ) (rest : List Char) :
    Cursor.word? ⟨offset, numeral negative whole fraction exponent ++ rest⟩ = none := by
  obtain ⟨d, ds, rfl⟩ := List.exists_cons_of_ne_nil h.whole_ne_nil
  have hd : isAsciiDigit d := h.whole_digits d (by simp)
  have hne {c : Char} (hc : isAsciiDigit c = false) : (c == d) = false := by
    rw [beq_eq_false_iff_ne]
    rintro rfl
    simp [hd] at hc
  rw [Cursor.word?, List.findSome?_eq_none_iff]
  rintro ⟨word, v⟩ hword
  obtain ⟨c, cs, hshape, hc, hminus⟩ := exists_cons_of_mem_words _ hword
  have hstart : word.toList.isPrefixOf (numeral negative (d :: ds) fraction exponent ++ rest) =
      false := by
    dsimp only at hshape
    rw [hshape]
    cases negative with
    | false => simp [numeral, List.isPrefixOf, hne hc]
    | true =>
        by_cases hcminus : c = '-'
        · obtain ⟨c', cs', rfl, hc'⟩ := hminus hcminus
          simp [numeral, List.isPrefixOf, hne hc']
        · simp [numeral, List.isPrefixOf, hcminus]
  simp [hstart]

/-- What is no word and begins neither with a quote nor with a bracket is read as a number. -/
lemma readValue_eq_number {c : Char} {more : List Char} {offset : ℕ} (hquote : c ≠ '"')
    (hbracket : c ≠ '[') (hbrace : c ≠ '\x7b') (hword : Cursor.word? ⟨offset, c :: more⟩ = none)
    (fuel : ℕ) : readValue (fuel + 1) ⟨offset, c :: more⟩ = Cursor.number ⟨offset, c :: more⟩ := by
  unfold readValue
  split
  · next hshape => exact absurd (List.cons.inj hshape).1 hquote
  · next hshape => exact absurd (List.cons.inj hshape).1 hbracket
  · next hshape => exact absurd (List.cons.inj hshape).1 hbrace
  · rw [hword]

/-- A number is read as such. -/
lemma readValue_numeral {whole fraction exponent : List Char}
    (h : IsNumeral whole fraction exponent) (negative : Bool) (fuel offset : ℕ)
    (rest : List Char) :
    readValue (fuel + 1) ⟨offset, numeral negative whole fraction exponent ++ rest⟩ =
      Cursor.number ⟨offset, numeral negative whole fraction exponent ++ rest⟩ := by
  have hword := word?_numeral h negative offset rest
  obtain ⟨d, ds, rfl⟩ := List.exists_cons_of_ne_nil h.whole_ne_nil
  have hd : isAsciiDigit d := h.whole_digits d (by simp)
  cases negative with
  | true => exact readValue_eq_number (by decide) (by decide) (by decide) hword fuel
  | false =>
      refine readValue_eq_number ?_ ?_ ?_ hword fuel <;>
        · rintro rfl
          exact absurd hd (by decide)

/-- A digit is no blank, no bracket and no mark. -/
lemma opens_of_isAsciiDigit {c : Char} (h : isAsciiDigit c) :
    isSpace c = false ∧ c ≠ ']' ∧ c ≠ '\uFEFF' := by
  have hcode := isAsciiDigit_iff.mp h
  have hne (d : Char) (hd : ¬ (48 ≤ d.toNat ∧ d.toNat ≤ 57)) : c ≠ d := by
    rintro rfl
    exact hd hcode
  simp only [isSpace, Bool.or_eq_false_iff, beq_eq_false_iff_ne]
  exact ⟨⟨⟨⟨hne _ (by decide), hne _ (by decide)⟩, hne _ (by decide)⟩, hne _ (by decide)⟩,
    hne _ (by decide), hne _ (by decide)⟩

/-- A number that is read to a value as such is read to it as a value. -/
lemma reads_of_number {text : List Char} {v : Value} {negative : Bool}
    {whole fraction exponent : List Char} (h : IsNumeral whole fraction exponent)
    (htext : text = numeral negative whole fraction exponent)
    (hread : ∀ offset rest, Delimited rest → Cursor.number ⟨offset, text ++ rest⟩ =
      .ok (v, ⟨offset + text.length, rest⟩)) : Reads text v := by
  refine .of_step ?_ fun fuel offset rest hrest => ?_
  · obtain ⟨d, ds, rfl⟩ := List.exists_cons_of_ne_nil h.whole_ne_nil
    cases negative with
    | true => exact ⟨'-', _, htext, by decide⟩
    | false => exact ⟨d, _, htext, opens_of_isAsciiDigit (h.whole_digits d (by simp))⟩
  · have hnumber := hread offset rest hrest
    rw [htext] at hnumber ⊢
    exact ⟨_, by rw [readValue_numeral h, hnumber]⟩

lemma reads_int {n : ℤ} (h : n.natAbs < 10 ^ digitLimit) : Reads (ofInt n).toList (.int n) :=
  reads_of_number (isNumeral_natDigits n.natAbs) (toList_ofInt n) fun offset _ hrest =>
    number_ofInt h hrest offset

lemma reads_float {x : Float} (h : Binary.isFiniteBits x.toBits)
    (hread : readFloat? (Decimal.ofFloat x) = some x) :
    Reads (Json.number x).toList (.float x) := by
  obtain ⟨negative, whole, fraction, exponent, hshape, hnumeral, -⟩ := exists_isNumeral_ofFloat h
  exact reads_of_number hnumeral (by rw [number_of_isFiniteBits h, hshape]) fun offset _ hrest =>
    number_ofFloat h hread hrest offset

/-! ### Sequences and mappings -/

/-- What stands after the first of some parts between brackets, up to the closing one. -/
def Style.after (style : Style) (depth : ℕ) (closing : Char) (parts : List (List Char)) :
    List Char :=
  parts.flatMap (fun part => ',' :: style.lineBreak (depth + 1) ++ part) ++
    (style.lineBreak depth ++ [closing])

lemma bracket_cons (style : Style) (depth : ℕ) (opening closing : Char) (part : List Char)
    (parts : List (List Char)) : style.bracket depth opening closing (part :: parts) =
      opening :: (style.lineBreak (depth + 1) ++ (part ++ style.after depth closing parts)) := by
  simp [Style.bracket, Style.after]

lemma after_cons (style : Style) (depth : ℕ) (closing : Char) (part : List Char)
    (parts : List (List Char)) : style.after depth closing (part :: parts) =
      ',' :: (style.lineBreak (depth + 1) ++ (part ++ style.after depth closing parts)) := by
  simp [Style.after]

/-- What stands after a part does not belong to a number at its end. -/
lemma delimited_after (style : Style) (depth : ℕ) {closing : Char}
    (hclosing : closing = ']' ∨ closing = '\x7d') (parts : List (List Char)) (rest : List Char) :
    Delimited (style.after depth closing parts ++ rest) := by
  cases parts with
  | cons part parts =>
      rw [after_cons]
      simp [Delimited]
      decide
  | nil =>
      have hnumber : isAsciiDigit closing = false ∧ closing ≠ '.' ∧ closing ≠ 'e' ∧
          closing ≠ 'E' := by
        obtain rfl | rfl := hclosing <;> decide
      cases style with
      | compact => simpa [Style.after, Style.lineBreak, Delimited] using hnumber
      | indented =>
          simp [Style.after, Style.lineBreak, Delimited]
          decide

/-- The text begins with a character that is no blank. -/
def Opens (text : List Char) : Prop := ∃ c more, text = c :: more ∧ isSpace c = false

lemma Reads.text_opens {text : List Char} {v : Value} (h : Reads text v) : Opens text := by
  obtain ⟨c, more, htext, hspace, -⟩ := h.opens
  exact ⟨c, more, htext, hspace⟩

lemma Opens.length_pos {text : List Char} (h : Opens text) : 0 < text.length := by
  obtain ⟨c, more, rfl, -⟩ := h
  simp

lemma Opens.head {text : List Char} (h : Opens text) (rest : List Char) :
    ∀ c ∈ (text ++ rest).head?, isSpace c = false := by
  obtain ⟨c, more, rfl, hspace⟩ := h
  simpa using hspace

/-- After the last part the closing bracket is next. -/
lemma skipSpace_after_nil (style : Style) (depth : ℕ) (closing : Char)
    (hclosing : isSpace closing = false) (offset : ℕ) (rest : List Char) :
    Cursor.skipSpace ⟨offset, style.after depth closing [] ++ rest⟩ =
      ⟨offset + (style.lineBreak depth).length, closing :: rest⟩ := by
  simpa [Style.after] using skipSpace_lineBreak style depth (by simpa using hclosing) offset

/-- After every other part a comma is next, and after it the next part. -/
lemma skipSpace_after_cons (style : Style) (depth : ℕ) (closing : Char) (part : List Char)
    (parts : List (List Char)) (offset : ℕ) (rest : List Char) :
    Cursor.skipSpace ⟨offset, style.after depth closing (part :: parts) ++ rest⟩ =
      ⟨offset, ',' :: (style.lineBreak (depth + 1) ++
        (part ++ (style.after depth closing parts ++ rest)))⟩ := by
  rw [after_cons, skipSpace_self (by simp; decide)]
  simp

lemma skipSpace_part {part : List Char} (h : Opens part) (style : Style) (depth offset : ℕ)
    (rest : List Char) : Cursor.skipSpace ⟨offset, style.lineBreak depth ++ (part ++ rest)⟩ =
      ⟨offset + (style.lineBreak depth).length, part ++ rest⟩ :=
  skipSpace_lineBreak style depth (h.head rest) offset

variable {style : Style} {depth : ℕ}

/-- The items are read up to the closing bracket, each from the end of the one before it. -/
lemma readItems_after {parts : List (List Char)} {items : List Value}
    (h : List.Forall₂ Reads parts items) {part : List Char} {v : Value} (hv : Reads part v)
    (fuel offset : ℕ) (rest : List Char)
    (hfuel : (part ++ style.after depth ']' parts).length ≤ fuel) :
    ∃ offset', readItems fuel ⟨offset, part ++ (style.after depth ']' parts ++ rest)⟩ =
      .ok (v :: items, ⟨offset', rest⟩) := by
  have hpos := hv.text_opens.length_pos
  -- one step is for this item, and both the item and what follows it are shorter than the whole
  induction h generalizing part v fuel offset with
  | nil =>
      simp only [Style.after, List.length_append, List.length_singleton] at hfuel
      obtain ⟨fuel, rfl⟩ : ∃ n, fuel = n + 1 := Nat.exists_eq_add_one.mpr (by omega)
      obtain ⟨next, hread⟩ := hv.read fuel offset (style.after depth ']' [] ++ rest) (by omega)
        (delimited_after style depth (.inl rfl) [] rest)
      rw [readItems, hread]
      simp only [bind, Except.bind, skipSpace_after_nil style depth ']' rfl]
      exact ⟨_, rfl⟩
  | @cons part' v' parts items hv' _ ih =>
      rw [after_cons] at hfuel
      simp only [List.length_append, List.length_cons] at hfuel
      obtain ⟨fuel, rfl⟩ : ∃ n, fuel = n + 1 := Nat.exists_eq_add_one.mpr (by omega)
      obtain ⟨next, hread⟩ := hv.read fuel offset (style.after depth ']' (part' :: parts) ++ rest)
        (by omega) (delimited_after style depth (.inl rfl) _ rest)
      obtain ⟨last, hmore⟩ := ih hv' fuel (next + 1 + (style.lineBreak (depth + 1)).length)
        (by simp only [List.length_append]; omega) hv'.text_opens.length_pos
      rw [readItems, hread]
      simp only [bind, Except.bind, skipSpace_after_cons, Cursor.advance, List.drop_succ_cons,
        List.drop_zero, skipSpace_part hv'.text_opens, hmore]
      exact ⟨_, rfl⟩

/-- A text of an entry: its key, a colon and the text of its value. -/
def ReadsEntry (style : Style) (part : List Char) (e : Value × Value) : Prop :=
  ∃ s text, part = string s ++ (style.colon ++ text) ∧ e.1 = .text s ∧ Reads text e.2

lemma ReadsEntry.exists_cons {part : List Char} {e : Value × Value}
    (h : ReadsEntry style part e) : ∃ more, part = '"' :: more := by
  obtain ⟨s, text, rfl, -⟩ := h
  exact ⟨_, rfl⟩

lemma ReadsEntry.opens {part : List Char} {e : Value × Value} (h : ReadsEntry style part e) :
    Opens part := by
  obtain ⟨more, rfl⟩ := h.exists_cons
  exact ⟨'"', more, rfl, by decide⟩

/-- After a key the colon is next, and after it the value. -/
lemma exists_skipSpace_colon {text : List Char} (h : Opens text) (style : Style) (offset : ℕ)
    (rest : List Char) : ∃ more offset', style.colon ++ (text ++ rest) = ':' :: more ∧
      Cursor.skipSpace ⟨offset, more⟩ = ⟨offset', text ++ rest⟩ := by
  cases style with
  | compact => exact ⟨_, _, rfl, skipSpace_self (h.head rest) offset⟩
  | indented =>
      have hblank : ∀ c ∈ [' '], isSpace c := by simp; decide
      exact ⟨_, _, rfl, skipSpace_append hblank (h.head rest) offset⟩

/-- An entry is read; it is the last one if the closing brace is next, and if a comma is next the
other entries are read from there. -/
lemma readEntries_entry {part : List Char} {e : Value × Value} (he : ReadsEntry style part e)
    {fuel : ℕ} (hfuel : part.length ≤ fuel) (offset : ℕ) {rest : List Char}
    (hrest : Delimited rest) : ∃ next,
      (∀ last more, Cursor.skipSpace ⟨next, rest⟩ = ⟨last, '\x7d' :: more⟩ →
        readEntries (fuel + 1) ⟨offset, part ++ rest⟩ = .ok ([e], ⟨last + 1, more⟩)) ∧
      ∀ comma more, Cursor.skipSpace ⟨next, rest⟩ = ⟨comma, ',' :: more⟩ →
        readEntries (fuel + 1) ⟨offset, part ++ rest⟩ =
          (readEntries fuel (Cursor.skipSpace ⟨comma + 1, more⟩)).map fun r => (e :: r.1, r.2) := by
  obtain ⟨s, text, rfl, hkey, hv⟩ := he
  obtain ⟨k, v⟩ := e
  obtain rfl : k = .text s := hkey
  simp only [List.length_append] at hfuel
  -- the key, the colon and the value, each from the end of the one before it
  obtain ⟨value, colon, hcolon, hskip⟩ := exists_skipSpace_colon hv.text_opens style
    (offset + (string s).length + 1) rest
  obtain ⟨next, hread⟩ := hv.read fuel colon rest (by omega) hrest
  have hstring := string_read s offset (':' :: value)
  have hshape : string s ++ ':' :: value =
      '"' :: (s.toList.flatMap stringChar ++ ['"'] ++ ':' :: value) := rfl
  have hself : Cursor.skipSpace ⟨offset + (string s).length, ':' :: value⟩ =
      ⟨offset + (string s).length, ':' :: value⟩ := skipSpace_self (by simp; decide) _
  rw [List.append_assoc, List.append_assoc, hcolon, readEntries]
  rw [hshape] at hstring ⊢
  refine ⟨next, fun last more hnext => ?_, fun comma more hnext => ?_⟩
  · simp only [hstring, bind, Except.bind, hself, Cursor.advance, List.drop_succ_cons,
      List.drop_zero, hskip, hread, hnext]
    rfl
  · simp only [hstring, bind, Except.bind, hself, Cursor.advance, List.drop_succ_cons,
      List.drop_zero, hskip, hread, hnext]
    cases readEntries fuel (Cursor.skipSpace ⟨comma + 1, more⟩) <;> rfl

/-- The entries are read up to the closing brace, each from the end of the one before it. -/
lemma readEntries_after {parts : List (List Char)} {entries : Entries}
    (h : List.Forall₂ (ReadsEntry style) parts entries) {part : List Char} {e : Value × Value}
    (he : ReadsEntry style part e) (fuel offset : ℕ) (rest : List Char)
    (hfuel : (part ++ style.after depth '\x7d' parts).length ≤ fuel) :
    ∃ offset', readEntries fuel ⟨offset, part ++ (style.after depth '\x7d' parts ++ rest)⟩ =
      .ok (e :: entries, ⟨offset', rest⟩) := by
  have hpos := he.opens.length_pos
  induction h generalizing part e fuel offset with
  | nil =>
      simp only [Style.after, List.length_append, List.length_singleton] at hfuel
      obtain ⟨fuel, rfl⟩ : ∃ n, fuel = n + 1 := Nat.exists_eq_add_one.mpr (by omega)
      obtain ⟨next, hlast, -⟩ := readEntries_entry he (show part.length ≤ fuel by omega) offset
        (delimited_after style depth (.inr rfl) [] rest)
      exact ⟨_, hlast _ _ (skipSpace_after_nil style depth '\x7d' rfl next rest)⟩
  | @cons part' e' parts entries he' _ ih =>
      rw [after_cons] at hfuel
      simp only [List.length_append, List.length_cons] at hfuel
      obtain ⟨fuel, rfl⟩ : ∃ n, fuel = n + 1 := Nat.exists_eq_add_one.mpr (by omega)
      obtain ⟨next, -, hcomma⟩ := readEntries_entry he (show part.length ≤ fuel by omega) offset
        (delimited_after style depth (.inr rfl) (part' :: parts) rest)
      obtain ⟨last, hmore⟩ := ih he' fuel (next + 1 + (style.lineBreak (depth + 1)).length)
        (by simp only [List.length_append]; omega) he'.opens.length_pos
      refine ⟨last, ?_⟩
      rw [hcomma _ _ (skipSpace_after_cons style depth '\x7d' part' parts next rest),
        skipSpace_part he'.opens, hmore, Except.map]

lemma readValue_list {fuel offset next : ℕ} {s more : List Char} {c : Char} (hc : c ≠ ']')
    (hskip : Cursor.skipSpace ⟨offset + 1, s⟩ = ⟨next, c :: more⟩) :
    readValue (fuel + 1) ⟨offset, '[' :: s⟩ = (do
      let (items, after) ← readItems fuel ⟨next, c :: more⟩
      pure (.list items, after)) := by
  rw [readValue]
  simp only [Cursor.advance, List.drop_succ_cons, List.drop_zero, hskip]
  split
  · next hshape => exact absurd (List.cons.inj hshape).1 hc
  · rfl

lemma readValue_mapping {fuel offset next : ℕ} {s more : List Char} {c : Char} (hc : c ≠ '\x7d')
    (hskip : Cursor.skipSpace ⟨offset + 1, s⟩ = ⟨next, c :: more⟩) :
    readValue (fuel + 1) ⟨offset, '\x7b' :: s⟩ = (do
      let (entries, after) ← readEntries fuel ⟨next, c :: more⟩
      pure (.mapping (Entries.ofPairs entries), after)) := by
  rw [readValue]
  simp only [Cursor.advance, List.drop_succ_cons, List.drop_zero, hskip]
  split
  · next hshape => exact absurd (List.cons.inj hshape).1 hc
  · rfl

/-- A sequence is read if its items are. -/
lemma reads_list {parts : List (List Char)} {items : List Value}
    (h : List.Forall₂ Reads parts items) :
    Reads (style.bracket depth '[' ']' parts) (.list items) where
  opens := by
    cases parts with
    | nil => exact ⟨'[', _, rfl, by decide⟩
    | cons part parts => exact ⟨'[', _, bracket_cons .., by decide⟩
  read fuel offset rest hfuel _ := by
    cases h with
    | nil =>
        obtain ⟨fuel, rfl⟩ := Nat.exists_eq_add_one.mpr (Nat.zero_lt_of_lt hfuel)
        exact ⟨_, rfl⟩
    | @cons part v parts items hv hmore =>
        rw [bracket_cons] at hfuel ⊢
        simp only [List.length_cons, List.length_append] at hfuel
        obtain ⟨fuel, rfl⟩ : ∃ n, fuel = n + 1 := Nat.exists_eq_add_one.mpr (by omega)
        obtain ⟨last, hitems⟩ := readItems_after hmore hv fuel
          (offset + 1 + (style.lineBreak (depth + 1)).length) rest
          (show (part ++ style.after depth ']' parts).length ≤ fuel by
            simp only [List.length_append]; omega)
        have hskip := skipSpace_part hv.text_opens style (depth + 1) (offset + 1)
          (style.after depth ']' parts ++ rest)
        obtain ⟨c, more, rfl, -, hc, -⟩ := hv.opens
        refine ⟨last, ?_⟩
        simp only [List.cons_append, List.append_assoc] at hskip hitems ⊢
        rw [readValue_list hc hskip, hitems]
        rfl

/-- A mapping with distinct keys is read if its entries are. -/
lemma reads_mapping {parts : List (List Char)} {entries : Entries}
    (h : List.Forall₂ (ReadsEntry style) parts entries) (hdistinct : entries.Distinct) :
    Reads (style.bracket depth '\x7b' '\x7d' parts) (.mapping entries) where
  opens := by
    cases parts with
    | nil => exact ⟨'\x7b', _, rfl, by decide⟩
    | cons part parts => exact ⟨'\x7b', _, bracket_cons .., by decide⟩
  read fuel offset rest hfuel _ := by
    cases h with
    | nil =>
        obtain ⟨fuel, rfl⟩ := Nat.exists_eq_add_one.mpr (Nat.zero_lt_of_lt hfuel)
        exact ⟨_, rfl⟩
    | @cons part e parts entries he hmore =>
        rw [bracket_cons] at hfuel ⊢
        simp only [List.length_cons, List.length_append] at hfuel
        obtain ⟨fuel, rfl⟩ : ∃ n, fuel = n + 1 := Nat.exists_eq_add_one.mpr (by omega)
        obtain ⟨last, hentries⟩ := readEntries_after hmore he fuel
          (offset + 1 + (style.lineBreak (depth + 1)).length) rest
          (show (part ++ style.after depth '\x7d' parts).length ≤ fuel by
            simp only [List.length_append]; omega)
        have hskip := skipSpace_part he.opens style (depth + 1) (offset + 1)
          (style.after depth '\x7d' parts ++ rest)
        obtain ⟨more, rfl⟩ := he.exists_cons
        refine ⟨last, ?_⟩
        simp only [List.cons_append, List.append_assoc] at hskip hentries ⊢
        rw [readValue_mapping (by decide) hskip, hentries]
        simp [Entries.ofPairs_of_distinct hdistinct]

/-! ### Values -/

lemma exists_renderItems {items : List Value} (h : ∀ v ∈ items, ∀ depth, ∃ text,
    renderAt style depth v.withLists = .ok text ∧ Reads text v.withLists) (depth : ℕ) :
    ∃ parts, renderItems style depth (Value.itemsWithLists items) = .ok parts ∧
      List.Forall₂ Reads parts (Value.itemsWithLists items) := by
  induction items with
  | nil => exact ⟨[], rfl, .nil⟩
  | cons v items ih =>
      obtain ⟨text, hrender, hreads⟩ := h v (by simp) (depth + 1)
      obtain ⟨parts, hparts, hitems⟩ := ih fun w hw => h w (by simp [hw])
      exact ⟨text :: parts, by rw [Value.itemsWithLists, renderItems, hrender, hparts]; rfl,
        .cons hreads hitems⟩

lemma exists_renderEntries {entries : Entries} (hkeys : ∀ e ∈ entries, ∃ s, e.1 = .text s)
    (h : ∀ e ∈ entries, ∀ depth, ∃ text,
      renderAt style depth e.2.withLists = .ok text ∧ Reads text e.2.withLists) (depth : ℕ) :
    ∃ parts, renderEntries style depth (Value.entriesWithLists entries) = .ok parts ∧
      List.Forall₂ (ReadsEntry style) parts (Value.entriesWithLists entries) := by
  induction entries with
  | nil => exact ⟨[], rfl, .nil⟩
  | cons e entries ih =>
      obtain ⟨k, v⟩ := e
      obtain ⟨s, rfl⟩ := hkeys (k, v) (by simp)
      obtain ⟨text, hrender, hreads⟩ := h (.text s, v) (by simp) (depth + 1)
      obtain ⟨parts, hparts, hentries⟩ := ih (fun e he => hkeys e (by simp [he]))
        fun e he => h e (by simp [he])
      refine ⟨(string s ++ style.colon ++ text) :: parts, ?_,
        .cons ⟨s, text, List.append_assoc .., rfl, hreads⟩ hentries⟩
      rw [Value.entriesWithLists, renderEntries, keyText, hrender, hparts]
      rfl

lemma map_key_entriesWithLists (entries : Entries) :
    (Value.entriesWithLists entries).map (fun e => e.1.key) = entries.map fun e => e.1.key := by
  induction entries with
  | nil => rfl
  | cons e entries ih =>
      obtain ⟨k, v⟩ := e
      rw [Value.entriesWithLists, List.map_cons, List.map_cons, ih]

/-- A value made of JSON is written, and what is written is read to it. -/
lemma exists_render {v : Value} (hv : v.IsJson)
    (hfloats : ∀ x, .float x ∈ v.scalars → readFloat? (Decimal.ofFloat x) = some x)
    (style : Style) (depth : ℕ) :
    ∃ text, renderAt style depth v.withLists = .ok text ∧ Reads text v.withLists := by
  induction hv generalizing depth with
  | null => exact ⟨_, rfl, reads_null⟩
  | @bool b =>
      cases b with
      | true => exact ⟨_, rfl, reads_true⟩
      | false => exact ⟨_, rfl, reads_false⟩
  | @int n hn =>
      exact ⟨_, by simp only [Value.withLists, renderAt, showInt_of_lt hn, Except.map],
        reads_int hn⟩
  | @float x hx => exact ⟨_, rfl, reads_float hx (hfloats x (by simp [Value.scalars]))⟩
  | @text s => exact ⟨_, rfl, reads_text s⟩
  | @list items _ ih | @tuple items _ ih =>
      -- a tuple is a list by the time it is written
      have hitems (v : Value) (hv : v ∈ items) (depth : ℕ) := ih v hv (fun x hx => hfloats x (by
        rw [Value.scalars, Value.mem_scalarsOfItems]
        exact ⟨v, hv, hx⟩)) depth
      obtain ⟨parts, hparts, hreads⟩ := exists_renderItems hitems depth
      exact ⟨_, by rw [Value.withLists, renderAt, hparts]; rfl, reads_list hreads⟩
  | @mapping entries hdistinct hkeys _ ih =>
      have hentries (e : Value × Value) (he : e ∈ entries) (depth : ℕ) :=
        ih e he (fun x hx => hfloats x (by
          rw [Value.scalars, Value.mem_scalarsOfEntries]
          exact ⟨e, he, .inr hx⟩)) depth
      obtain ⟨parts, hparts, hreads⟩ := exists_renderEntries hkeys hentries depth
      have hdistinct' : Entries.Distinct (Value.entriesWithLists entries) := by
        rw [Entries.Distinct, map_key_entriesWithLists]
        exact hdistinct
      exact ⟨_, by rw [Value.withLists, renderAt, hparts]; rfl, reads_mapping hreads hdistinct'⟩

/-- A text that is read to a value whatever follows is the JSON text of this value. -/
lemma Reads.parse {text : List Char} {v : Value} (h : Reads text v) : parse text = .ok v := by
  obtain ⟨next, hread⟩ := h.read (2 * text.length + 2) 0 [] (by omega) (by simp [Delimited])
  obtain ⟨c, more, rfl, hspace, -, hmark⟩ := h.opens
  have hhead : ((c :: more).head? == some '\uFEFF') = false := by simpa using hmark
  rw [List.append_nil] at hread
  rw [Json.parse, hhead, skipSpace_self (by simpa using hspace)]
  simp only [Bool.false_eq_true, if_false, hread, bind, Except.bind, Cursor.skipSpace,
    List.dropWhile_nil, List.isEmpty_nil, if_true]
  rfl

/-! ### Documents -/

lemma exists_cons_bracket (style : Style) (depth : ℕ) (opening closing : Char)
    (parts : List (List Char)) :
    ∃ more, style.bracket depth opening closing parts = opening :: more := by
  cases parts with
  | nil => exact ⟨_, rfl⟩
  | cons part parts => exact ⟨_, bracket_cons ..⟩

/-- The text of a sequence or of a mapping shows that it is JSON. -/
lemma ofStart?_of_renderAt {v : Value} (hv : v.items?.isSome ∨ v.entries?.isSome)
    {text : List Char} (h : renderAt style depth v.withLists = .ok text) :
    DocumentFormat.ofStart? text = some .json := by
  have hbracket (opening closing : Char) (parts : List (List Char))
      (hopening : opening = '[' ∨ opening = '\x7b') :
      DocumentFormat.ofStart? (style.bracket depth opening closing parts) = some .json := by
    obtain ⟨more, hmore⟩ := exists_cons_bracket style depth opening closing parts
    rw [hmore]
    obtain rfl | rfl := hopening <;> rfl
  cases v with
  | list items | tuple items =>
      rw [Value.withLists, renderAt, except_bind_eq_ok] at h
      obtain ⟨parts, -, h⟩ := h
      cases h
      exact hbracket _ _ _ (.inl rfl)
  | mapping entries =>
      rw [Value.withLists, renderAt, except_bind_eq_ok] at h
      obtain ⟨parts, -, h⟩ := h
      cases h
      exact hbracket _ _ _ (.inr rfl)
  | _ => simp [Value.items?, Value.entries?] at hv

end Json

namespace Document

/-- A text that shows its own format is read in it. -/
lemma read_of_detect {s : String} {f : DocumentFormat}
    (h : DocumentFormat.detect none (some s) = some f) :
    read (.text s) none none = f.read s := by
  have htext : Value.documentText (.text s) = .ok s := rfl
  simp only [read, htext, Option.filter_none, h, bind, Except.bind]

/-- **JSON documents are read back.**  A value made of JSON, whose floats are each what their text
reads as, is written as a JSON document in either style, and the document is read to the value with
lists for its tuples.  The document of a sequence or of a mapping is read to it without a format
too, since it shows its own. -/
theorem json_round_trip {v : Value} (hv : v.IsJson)
    (hfloats : ∀ x, .float x ∈ v.scalars → Decimal.readFloat? (Decimal.ofFloat x) = some x)
    (options : DocumentOptions) :
    ∃ s, write v (some "json") options = .ok s ∧
      (∀ contentType, read (.text s) contentType (some "json") = .ok v.withLists) ∧
      (v.items?.isSome ∨ v.entries?.isSome →
        DocumentFormat.detect none (some s) = some .json ∧
          read (.text s) none none = .ok v.withLists) := by
  obtain ⟨text, hrender, hreads⟩ :=
    Json.exists_render hv hfloats (if options.pretty then .indented else .compact) 0
  have hread : DocumentFormat.json.read (String.ofList text) = .ok v.withLists := by
    rw [DocumentFormat.read, Json.read, String.toList_ofList, hreads.parse, Except.mapError]
  refine ⟨String.ofList text, ?_, fun contentType => hread, fun hcontainer => ?_⟩
  · have hname : write v (some "json") options =
        DocumentFormat.json.write options v.withLists := rfl
    rw [hname, DocumentFormat.write, Json.render, hrender, Except.map]
  · have hdetect : DocumentFormat.detect none (some (String.ofList text)) = some .json := by
      simp [DocumentFormat.detect, Json.ofStart?_of_renderAt hcontainer hrender]
    exact ⟨hdetect, (read_of_detect hdetect).trans hread⟩

/-- A mapping with a tuple, floats in each layout, characters with and without escapes, and empty
sequences. -/
def everyForm : Value :=
  .mapping [
    (.text "a\n\"", .tuple [.int (-12), .float (-0.0), .float 1e22, .float 1e-7, .float 2.5]),
    (.text "", .list [.text "\x01\\𝄞", .null, .mapping [], .list [], .bool true])]

/-- The compact document of this value, and what it is read to in either style. -/
theorem json_round_trip_everyForm :
    let v := Value.mapping [
      (.text "a\n\"", .list [.int (-12), .float (-0.0), .float 1e22, .float 1e-7, .float 2.5]),
      (.text "", .list [.text "\x01\\𝄞", .null, .mapping [], .list [], .bool true])]
    write everyForm (some "json") ⟨false, .null⟩ = .ok
        ("\x7b\"a\\n\\\"\":[-12,-0.0,1e+22,1e-07,2.5]," ++
          "\"\":[\"\\u0001\\\\𝄞\",null,\x7b\x7d,[],true]\x7d") ∧
      ∀ pretty, ∃ s, write everyForm (some "json") ⟨pretty, .null⟩ = .ok s ∧
        read (.text s) none (some "json") = .ok v ∧ read (.text s) none none = .ok v := by
  intro v
  have hint : (-12 : ℤ).natAbs < 10 ^ Decimal.digitLimit :=
    Nat.lt_of_lt_of_le (by decide : 12 < 10 ^ 2) (Nat.pow_le_pow_right (by decide) (by decide))
  have hfinite : ∀ x ∈ ([-0.0, 1e22, 1e-7, 2.5] : List Float),
      Decimal.Binary.isFiniteBits x.toBits := by
    decide +kernel
  have hjson : everyForm.IsJson := by
    simp only [List.mem_cons, List.not_mem_nil, or_false, forall_eq_or_imp, forall_eq] at hfinite
    obtain ⟨hzero, hlarge, hsmall, hhalf⟩ := hfinite
    refine .mapping (by simp [Entries.Distinct, Value.key]) (by simp) ?_
    simp only [List.mem_cons, List.not_mem_nil, or_false, forall_eq_or_imp, forall_eq]
    constructor
    · refine .tuple ?_
      simp only [List.mem_cons, List.not_mem_nil, or_false, forall_eq_or_imp, forall_eq]
      exact ⟨.int hint, .float hzero, .float hlarge, .float hsmall, .float hhalf⟩
    · refine .list ?_
      simp only [List.mem_cons, List.not_mem_nil, or_false, forall_eq_or_imp, forall_eq]
      exact ⟨.text, .null, .mapping (by simp [Entries.Distinct]) (by simp) (by simp),
        .list (by simp), .bool⟩
  have hfloats : ∀ x, .float x ∈ everyForm.scalars →
      Decimal.readFloat? (Decimal.ofFloat x) = some x := by
    have hbits : ∀ x ∈ ([-0.0, 1e22, 1e-7, 2.5] : List Float),
        (Decimal.readFloat? (Decimal.ofFloat x)).map Float.toBits = some x.toBits := by
      decide +kernel
    intro x hx
    have hmem : x ∈ ([-0.0, 1e22, 1e-7, 2.5] : List Float) := by
      simpa [everyForm, Value.scalars, Value.scalarsOfItems, Value.scalarsOfEntries] using hx
    obtain ⟨y, hread, hy⟩ := Option.map_eq_some_iff.mp (hbits x hmem)
    rw [hread, ← Float.ofBits_toBits y, hy, Float.ofBits_toBits]
  refine ⟨by decide +kernel, fun pretty => ?_⟩
  obtain ⟨s, hwrite, hread, hdetect⟩ := json_round_trip hjson hfloats ⟨pretty, .null⟩
  exact ⟨s, hwrite, hread none, (hdetect (.inr rfl)).2⟩

end Document

end Sigil
