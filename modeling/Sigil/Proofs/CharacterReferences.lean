/-
# Character references

Every character with a meaning is written as a reference of its own, and the semicolon at the end of
a reference keeps apart what follows.  So references are turned back one by one, and a text that
looks like a reference survives: its ampersand is escaped, and turned back, like any other.

Escaping in one pass is the same as replacing one character after another, the ampersand first, and
at last the hexadecimal reference for the single quote by the decimal one.
-/
import Mathlib
import Sigil.Library.Markup
import Sigil.Text.Search

namespace Sigil

/-! ### Replacing single characters -/

namespace Text

variable {old new : List Char}

lemma replaceFrom_append (read rest : List Char) :
    replaceFrom old new read.length (read ++ rest) = replaceFrom old new 0 rest := by
  induction read with
  | nil => rfl
  | cons c read ih => exact ih

/-- What is replaced first is the text at the start, if it is there. -/
lemma replaceAll_append (hold : old ≠ []) (rest : List Char) :
    replaceAll old new (old ++ rest) = new ++ replaceAll old new rest := by
  obtain ⟨c, tail, rfl⟩ := List.exists_cons_of_ne_nil hold
  have hprefix : (c :: tail).isPrefixOf (c :: (tail ++ rest)) := by simp
  rw [replaceAll, List.cons_append, replaceFrom, if_pos hprefix, List.length_cons,
    Nat.add_sub_cancel, replaceFrom_append]
  rfl

lemma replaceAll_cons {c : Char} {s : List Char} (h : ¬ old <+: c :: s) :
    replaceAll old new (c :: s) = c :: replaceAll old new s := by
  rw [replaceAll, replaceFrom, if_neg (by rwa [List.isPrefixOf_iff_prefix])]
  rfl

/-- Characters of which none begins what is replaced stay. -/
lemma replaceAll_append_of_not_mem {c : Char} {kept : List Char} (h : c ∉ kept)
    (tail rest : List Char) :
    replaceAll (c :: tail) new (kept ++ rest) = kept ++ replaceAll (c :: tail) new rest := by
  induction kept with
  | nil => rfl
  | cons d kept ih =>
      rw [List.mem_cons, not_or] at h
      rw [List.cons_append, replaceAll_cons (by simp [h.1]), ih h.2, List.cons_append]

end Text

namespace Html

open Text (replaceAll)

/-! ### What is written -/

/-- The references that are written. -/
def references : List (List Char) :=
  [['&', 'a', 'm', 'p', ';'], ['&', 'l', 't', ';'], ['&', 'g', 't', ';'],
   ['&', 'q', 'u', 'o', 't', ';'], ['&', '#', '3', '9', ';']]

/-- The characters of tags and of quoted attributes. -/
def markupCharacters : List Char := ['<', '>', '"', '\'']

/-- What a character is written as. -/
def written (c : Char) : List Char :=
  match reference? c with
  | some r => r.toList
  | none => [c]

@[simp] lemma escape_nil : escape [] = [] := rfl

@[simp]
lemma escape_cons (c : Char) (s : List Char) : escape (c :: s) = written c ++ escape s := rfl

/-- A character is written as itself unless it has a meaning. -/
lemma written_eq_self {c : Char} (hc : c ≠ '&') (hmarkup : c ∉ markupCharacters) :
    written c = [c] := by
  have hnone : reference? c = none := by
    unfold reference?
    split <;> simp_all [markupCharacters]
  rw [written, hnone]

lemma written_mem_references {c : Char} (h : c = '&' ∨ c ∈ markupCharacters) :
    written c ∈ references := by
  simp only [markupCharacters, List.mem_cons, List.not_mem_nil, or_false] at h
  rcases h with rfl | rfl | rfl | rfl | rfl <;> simp [written, reference?, references]

/-- A reference is an ampersand and what follows it, which has no other one and no markup. -/
lemma exists_body {r : List Char} (h : r ∈ references) :
    ∃ body, r = '&' :: body ∧ '&' ∉ body ∧ ∀ c ∈ markupCharacters, c ∉ r := by
  have hall : ∀ r ∈ references,
      r.head? = some '&' ∧ '&' ∉ r.tail ∧ ∀ c ∈ markupCharacters, c ∉ r := by
    simp [references, markupCharacters]
  obtain ⟨hhead, hbody, hmarkup⟩ := hall r h
  exact ⟨r.tail, (List.cons_head?_tail hhead).symm, hbody, hmarkup⟩

lemma not_mem_escape {c : Char} (hc : c ∈ markupCharacters) (s : List Char) : c ∉ escape s := by
  induction s with
  | nil => exact List.not_mem_nil
  | cons d s ih =>
      rw [escape_cons, List.mem_append]
      rintro (hmem | hmem)
      · by_cases hd : d = '&' ∨ d ∈ markupCharacters
        · obtain ⟨-, -, -, hmarkup⟩ := exists_body (written_mem_references hd)
          exact hmarkup c hc hmem
        · rw [not_or] at hd
          rw [written_eq_self hd.1 hd.2, List.mem_singleton] at hmem
          exact hd.2 (hmem ▸ hc)
      · exact ih hmem

/-- Every ampersand of an escaped text begins a reference. -/
lemma exists_reference_prefix {s p q : List Char} (h : escape s = p ++ '&' :: q) :
    ∃ r ∈ references, r <+: '&' :: q := by
  induction s generalizing p with
  | nil => simp at h
  | cons c s ih =>
      rw [escape_cons] at h
      rcases List.append_eq_append_iff.mp h with ⟨p', rfl, hrest⟩ | ⟨tail, hwritten, hrest⟩
      · exact ih hrest
      · cases tail with
        | nil => exact ih (p := []) hrest.symm
        | cons d tail =>
            -- the ampersand lies in what the first character is written as
            obtain ⟨rfl, rfl⟩ := List.cons.inj hrest
            by_cases hc : c = '&' ∨ c ∈ markupCharacters
            · have hmem := written_mem_references hc
              obtain ⟨body, hbody, hnot, -⟩ := exists_body hmem
              cases p with
              | nil => exact ⟨written c, hmem, by simp [hwritten]⟩
              | cons e p =>
                  rw [hbody, List.cons_append, List.cons.injEq] at hwritten
                  exact absurd (by simp [hwritten.2]) hnot
            · rw [not_or] at hc
              rw [written_eq_self hc.1 hc.2] at hwritten
              have hmem : '&' ∈ [c] := by simp [hwritten]
              exact absurd (List.mem_singleton.mp hmem).symm hc.1

/-! ### One character after another -/

/-- Each of the characters replaced by its reference in turn, and the reference by a hexadecimal
number by the one by a decimal number. -/
def escapeByTurns (s : List Char) : List Char :=
  let s := replaceAll ['&'] ['&', 'a', 'm', 'p', ';'] s
  let s := replaceAll ['<'] ['&', 'l', 't', ';'] s
  let s := replaceAll ['>'] ['&', 'g', 't', ';'] s
  let s := replaceAll ['"'] ['&', 'q', 'u', 'o', 't', ';'] s
  let s := replaceAll ['\''] ['&', '#', 'x', '2', '7', ';'] s
  replaceAll ['&', '#', 'x', '2', '7', ';'] ['&', '#', '3', '9', ';'] s

/-- Other references are not taken for the hexadecimal one. -/
lemma replaceAll_hexadecimal_append {body : List Char} (hhead : body.head? ≠ some '#')
    (hne : body ≠ []) (hbody : '&' ∉ body) (new s : List Char) :
    replaceAll ['&', '#', 'x', '2', '7', ';'] new ('&' :: body ++ s) =
      '&' :: body ++ replaceAll ['&', '#', 'x', '2', '7', ';'] new s := by
  obtain ⟨c, tail, rfl⟩ := List.exists_cons_of_ne_nil hne
  have hprefix : ¬ ['&', '#', 'x', '2', '7', ';'] <+: '&' :: (c :: tail ++ s) := by
    rw [List.cons_prefix_cons, List.cons_append, List.cons_prefix_cons]
    rintro ⟨-, rfl, -⟩
    exact hhead rfl
  rw [List.cons_append, Text.replaceAll_cons hprefix, Text.replaceAll_append_of_not_mem hbody]
  rfl

lemma escapeByTurns_cons (c : Char) (s : List Char) :
    escapeByTurns (c :: s) = written c ++ escapeByTurns s := by
  have hself (d : Char) (new t : List Char) :
      replaceAll [d] new (d :: t) = new ++ replaceAll [d] new t :=
    Text.replaceAll_append (List.cons_ne_nil d []) t
  by_cases hc : c = '&' ∨ c ∈ markupCharacters
  · simp only [markupCharacters, List.mem_cons, List.not_mem_nil, or_false] at hc
    rcases hc with rfl | rfl | rfl | rfl | rfl
    case inr.inr.inr.inr =>
      -- the single quote becomes the hexadecimal reference, which is the one that is replaced
      simp (disch := simp) only [escapeByTurns, hself, Text.replaceAll_cons,
        Text.replaceAll_append (List.cons_ne_nil _ _)]
      rfl
    all_goals
      simp (disch := simp) only [escapeByTurns, hself, Text.replaceAll_cons,
        Text.replaceAll_append_of_not_mem]
      exact replaceAll_hexadecimal_append (by simp) (by simp) (by simp) _ _
  · rw [not_or] at hc
    have hmarkup := hc.2
    simp only [markupCharacters, List.mem_cons, List.not_mem_nil, or_false, not_or] at hmarkup
    rw [written_eq_self hc.1 hc.2]
    simp (disch := simp [hc.1, hmarkup, Ne.symm]) only [escapeByTurns, Text.replaceAll_cons]
    rfl

lemma escape_eq_escapeByTurns (s : List Char) : escape s = escapeByTurns s := by
  induction s with
  | nil => rfl
  | cons c s ih => rw [escape_cons, escapeByTurns_cons, ih]

/-! ### References turned back -/

lemma unescapeFrom_append (read rest : List Char) :
    unescapeFrom read.length (read ++ rest) = unescapeFrom 0 rest := by
  induction read with
  | nil => rfl
  | cons c read ih => exact ih

/-- A reference that stands for a character is turned back to it, whatever follows. -/
lemma unescapeFrom_reference {body rest : List Char} {r : Reference} {c : Char}
    (hread : referenceAt? (body ++ rest) = some (r, body.length)) (htext : r.text = .ok [c]) :
    unescapeFrom 0 ('&' :: body ++ rest) = (unescapeFrom 0 rest).map (c :: ·) := by
  rw [List.cons_append, unescapeFrom, if_pos (by rfl), hread]
  simp only [htext, unescapeFrom_append, bind, Except.bind]
  cases unescapeFrom 0 rest <;> rfl

/-- A name is read up to its semicolon, whatever follows. -/
lemma referenceAt?_name {name : List Char} (hname : ∀ c ∈ name, endsName c = false)
    (hne : name ≠ []) (hlength : name.length < 32) (rest : List Char) :
    referenceAt? (name ++ [';'] ++ rest) = some (.named name true, (name ++ [';']).length) := by
  have hread : ((name ++ [';'] ++ rest).take 32).takeWhile (fun c => !endsName c) = name := by
    have hsplit : (name ++ [';'] ++ rest).take 32 =
        name ++ ';' :: rest.take (31 - name.length) := by
      have hroom : 32 - name.length = 31 - name.length + 1 := by omega
      rw [List.append_assoc, List.take_append, List.take_of_length_le hlength.le, hroom]
      rfl
    rw [hsplit, List.takeWhile_append_of_pos (by simpa using hname)]
    simp [endsName]
  have hrest : (name ++ [';'] ++ rest).drop name.length = ';' :: rest := by simp
  have hsharp : ∀ tail, name ++ [';'] ++ rest ≠ '#' :: tail := by
    obtain ⟨c, tail, rfl⟩ := List.exists_cons_of_ne_nil hne
    rintro more hmore
    obtain rfl : c = '#' := (List.cons.inj hmore).1
    exact absurd (hname '#' List.mem_cons_self) (by decide)
  rw [referenceAt?.eq_2 _ hsharp]
  simp only [hread, hrest, List.isEmpty_iff, hne, if_false]
  simp [semicolon]

/-- The names that are written stand for the characters that are written by them. -/
lemma namedText?_written :
    namedText? ['a', 'm', 'p'] = some ['&'] ∧ namedText? ['l', 't'] = some ['<'] ∧
      namedText? ['g', 't'] = some ['>'] ∧ namedText? ['q', 'u', 'o', 't'] = some ['"'] := by
  decide +kernel

lemma unescapeFrom_name {name : List Char} {c : Char} (hname : ∀ c ∈ name, endsName c = false)
    (hne : name ≠ []) (hlength : name.length < 32) (htext : namedText? name = some [c])
    (rest : List Char) :
    unescapeFrom 0 ('&' :: (name ++ [';']) ++ rest) = (unescapeFrom 0 rest).map (c :: ·) := by
  refine unescapeFrom_reference (referenceAt?_name hname hne hlength rest) ?_
  rw [Reference.text, named, if_pos rfl, htext]

/-- What a character is written as is turned back to it, whatever follows. -/
lemma unescapeFrom_written (c : Char) (rest : List Char) :
    unescapeFrom 0 (written c ++ rest) = (unescapeFrom 0 rest).map (c :: ·) := by
  obtain ⟨hamp, hlt, hgt, hquot⟩ := namedText?_written
  by_cases hc : c = '&' ∨ c ∈ markupCharacters
  · simp only [markupCharacters, List.mem_cons, List.not_mem_nil, or_false] at hc
    rcases hc with rfl | rfl | rfl | rfl | rfl
    · exact unescapeFrom_name (by simp [endsName]) (by simp) (by simp) hamp rest
    · exact unescapeFrom_name (by simp [endsName]) (by simp) (by simp) hlt rest
    · exact unescapeFrom_name (by simp [endsName]) (by simp) (by simp) hgt rest
    · exact unescapeFrom_name (by simp [endsName]) (by simp) (by simp) hquot rest
    · have hnumber : Decimal.readInt (String.ofList ['3', '9']) = .ok 39 := by rfl
      refine unescapeFrom_reference (r := .decimal ['3', '9']) (by rfl) ?_
      rw [Reference.text, hnumber]
      rfl
  · rw [not_or] at hc
    rw [written_eq_self hc.1 hc.2, List.singleton_append, unescapeFrom, if_neg (by simp [hc.1])]

/-- Unescaping undoes escaping. -/
lemma unescape_escape (s : List Char) : unescape (escape s) = .ok s := by
  induction s with
  | nil => rfl
  | cons c s ih =>
      rw [unescape] at ih ⊢
      rw [escape_cons, unescapeFrom_written, ih]
      rfl

end Html

namespace Library

open Html (references markupCharacters escapeByTurns)

/-- **Escaped markup.**  The escaped text, the same as by replacing one character after another, is
turned back to the text; it has no characters of tags and quoted attributes, and no ampersand but at
the start of one of the references that are written. -/
theorem escaped_markup (s : String) :
    ∃ t, escapeMarkup (.text s) = .ok (.text t) ∧ unescapeMarkup (.text t) = .ok (.text s) ∧
      t.toList = escapeByTurns s.toList ∧ (∀ c ∈ markupCharacters, c ∉ t.toList) ∧
      ∀ p q, t.toList = p ++ '&' :: q → ∃ r ∈ references, r <+: '&' :: q := by
  have htext :
      chars (.text (String.ofList (Html.escape s.toList))) = .ok (Html.escape s.toList) := by
    rw [chars, Value.toText, Except.map, String.toList_ofList]
  refine ⟨String.ofList (Html.escape s.toList), rfl, ?_, ?_, ?_, ?_⟩
  · rw [unescapeMarkup, htext]
    simp only [bind, Except.bind, Html.unescape_escape, textValue, String.ofList_toList]
    rfl
  · rw [String.toList_ofList, Html.escape_eq_escapeByTurns]
  · intro c hc
    rw [String.toList_ofList]
    exact Html.not_mem_escape hc s.toList
  · intro p q h
    rw [String.toList_ofList] at h
    exact Html.exists_reference_prefix h

/-- A reference between single quotes. -/
theorem escaped_markup_quoted :
    escapeMarkup (.text "'&lt;'") = .ok (.text "&#39;&amp;lt;&#39;") ∧
      unescapeMarkup (.text "&#39;&amp;lt;&#39;") = .ok (.text "'&lt;'") ∧
      '\'' ∉ "&#39;&amp;lt;&#39;".toList ∧
      ∃ r ∈ references, r <+: "&amp;lt;&#39;".toList := by
  have hescape : escapeMarkup (.text "'&lt;'") = .ok (.text "&#39;&amp;lt;&#39;") := by rfl
  obtain ⟨t, ht, hback, -, hmarkup, hreference⟩ := escaped_markup "'&lt;'"
  rw [hescape, Except.ok.injEq, Value.text.injEq] at ht
  subst ht
  exact ⟨hescape, hback, hmarkup '\'' (by decide), hreference "&#39;".toList _ (by rfl)⟩

end Library

end Sigil
