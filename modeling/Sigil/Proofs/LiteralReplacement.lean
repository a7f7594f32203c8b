/-
# Replacement by a template

With flags, what replaces an occurrence is a template: a backslash in it may stand for something
else together with what follows.  A template stands for itself just if all its backslashes stay, for
every other escape makes a text shorter or takes a backslash from it.
-/
import Sigil.Library.Replacement
import Sigil.Proofs.LiteralPatterns
import Sigil.Proofs.Outcome
import Sigil.Proofs.RequestedSlices

namespace Sigil

namespace Pattern

open Sigil.Text

/-! ### What an escape takes -/

lemma suffix_of_nameUntil {mark : Char} {s name tail : List Char}
    (h : nameUntil mark s = .ok (name, tail)) : tail <:+ s := by
  fun_induction nameUntil mark s generalizing name with
  | case1 => cases h
  | case2 c rest ih =>
      obtain ⟨⟨inner, end'⟩, hrest, heq⟩ := except_map_eq_ok.mp h
      cases heq
      exact ((ih hrest).trans (List.suffix_cons c rest)).trans (List.suffix_cons _ _)
  | case3 c rest hmark =>
      cases h
      exact List.suffix_cons c _
  | case4 c rest hc hmark ih =>
      obtain ⟨⟨inner, end'⟩, hrest, heq⟩ := except_map_eq_ok.mp h
      cases heq
      exact (ih hrest).trans (List.suffix_cons c rest)

lemma suffix_of_numberEscape {c : Char} {rest tail : List Char} {l : Lexeme}
    (h : numberEscape c rest = .ok (l, tail)) : tail <:+ rest := by
  unfold numberEscape at h
  dsimp only at h
  split at h
  · next d e more hd hrest =>
      have hsuffix : e :: more <:+ rest := hrest ▸ List.drop_suffix 1 rest
      split at h
      · obtain ⟨⟨n, end'⟩, hcode, heq⟩ := except_map_eq_ok.mp h
        cases heq
        unfold octalCode at hcode
        split at hcode <;> cases hcode
        exact (List.suffix_cons e _).trans hsuffix
      · cases h
        exact hsuffix
  · cases h
    exact List.drop_suffix _ rest

/-- A backslash stays with the character behind it, or it gives a single piece for itself and what
it takes of the characters behind it. -/
lemma replacementEscape_eq_ok {c : Compiled} {s tail : List Char}
    {pieces : List ReplacementPiece} (h : replacementEscape c s = .ok (pieces, tail)) :
    (∃ d, s = d :: tail ∧ d.isAlphanum = false ∧ d ≠ '\\' ∧ pieces = [.char '\\', .char d]) ∨
      ∃ piece d taken, s = d :: taken ++ tail ∧ pieces = [piece] := by
  unfold replacementEscape at h
  split at h
  · cases h
  -- a reference to a group between angle brackets
  · obtain ⟨⟨name, end'⟩, hname, h⟩ := except_bind_eq_ok.mp h
    obtain ⟨piece, hpiece, h⟩ := except_bind_eq_ok.mp h
    cases h
    obtain ⟨taken, rfl⟩ := suffix_of_nameUntil hname
    exact .inr ⟨piece, 'g', '<' :: taken, rfl, rfl⟩
  -- a character by its code in octal digits
  · next rest =>
      cases h
      refine .inr ⟨_, '0', rest.take (leading isOctal 2 rest).length, ?_, rfl⟩
      rw [List.cons_append, List.take_append_drop]
  · next d rest hg h0 =>
      split at h
      -- a number, which is a code or refers to a group
      · obtain ⟨⟨l, end'⟩, hnumber, h⟩ := except_bind_eq_ok.mp h
        obtain ⟨taken, rfl⟩ := suffix_of_numberEscape hnumber
        cases l with
        | atom p =>
            cases p <;> cases h
            exact .inr ⟨_, d, taken, rfl, rfl⟩
        | reference n =>
            obtain ⟨piece, hpiece, h⟩ := except_bind_eq_ok.mp h
            cases h
            exact .inr ⟨piece, d, taken, rfl, rfl⟩
        | _ => cases h
      · next hdigit =>
          split at h
          -- a character with a letter of its own
          · cases h
            exact .inr ⟨_, d, [], rfl, rfl⟩
          · next hletter =>
              split at h
              · cases h
              · next halpha =>
                  cases h
                  refine .inl ⟨d, rfl, by simp [Char.isAlphanum, hdigit, halpha], ?_, rfl⟩
                  rintro rfl
                  exact absurd hletter (by decide)

/-! ### Templates that stand for themselves -/

/-- Every backslash of the template stands before a character that is neither a letter nor a digit
nor a backslash, so it stays. -/
inductive BackslashesStay : List Char → Prop
  /-- The empty template. -/
  | nil : BackslashesStay []
  /-- A character that is no backslash. -/
  | char {d : Char} {template : List Char} (hd : d ≠ '\\') (h : BackslashesStay template) :
      BackslashesStay (d :: template)
  /-- A backslash and the character behind it. -/
  | backslash {d : Char} {template : List Char} (halnum : d.isAlphanum = false) (hd : d ≠ '\\')
      (h : BackslashesStay template) : BackslashesStay ('\\' :: d :: template)

section

variable {c : Compiled} {old template tail : List Char} {pieces more : List ReplacementPiece}

lemma replacementFrom_skip (taken tail : List Char) :
    replacementFrom c taken.length (taken ++ tail) = replacementFrom c 0 tail := by
  induction taken with
  | nil => rfl
  | cons d taken ih =>
      rw [List.length_cons, List.cons_append, replacementFrom]
      exact ih

lemma replacementFrom_char {d : Char} (hd : d ≠ '\\') (template : List Char) :
    replacementFrom c 0 (d :: template) = (replacementFrom c 0 template).map (.char d :: ·) := by
  rw [replacementFrom]
  · cases replacementFrom c 0 template <;> rfl
  · exact hd

lemma replacementFrom_escape {s : List Char} (hs : tail <:+ s)
    (h : replacementEscape c s = .ok (pieces, tail)) :
    replacementFrom c 0 ('\\' :: s) = (replacementFrom c 0 tail).map (pieces ++ ·) := by
  obtain ⟨taken, rfl⟩ := hs
  have hskip : (taken ++ tail).length - tail.length = taken.length := by simp
  rw [replacementFrom, h]
  change (do let more ← replacementFrom c ((taken ++ tail).length - tail.length) (taken ++ tail)
             pure (pieces ++ more)) = _
  rw [hskip, replacementFrom_skip]
  cases replacementFrom c 0 tail <;> rfl

lemma replacementEscape_of_isAlphanum_eq_false {d : Char} (halnum : d.isAlphanum = false)
    (hd : d ≠ '\\') (rest : List Char) :
    replacementEscape c (d :: rest) = .ok ([.char '\\', .char d], rest) := by
  have hletter : (if d == 'b' then some 8 else escapeLetter? d) = none := by
    have hb : (d == 'b') = false := by
      rw [beq_eq_false_iff_ne]
      rintro rfl
      exact absurd halnum (by decide)
    rw [hb, if_neg Bool.false_ne_true]
    unfold escapeLetter?
    split <;> first | rfl | exact absurd halnum (by decide) | exact absurd rfl hd
  rw [Char.isAlphanum, Bool.or_eq_false_iff] at halnum
  unfold replacementEscape
  split
  · next heq => cases heq
  · next heq => cases heq; exact absurd halnum.1 (by decide)
  · next heq => cases heq; exact absurd halnum.2 (by decide)
  · next heq =>
      cases heq
      rw [halnum.2, if_neg Bool.false_ne_true, hletter, halnum.1, if_neg Bool.false_ne_true]

/-- A template whose backslashes stay gives its characters. -/
lemma BackslashesStay.replacementFrom_eq (h : BackslashesStay template) (c : Compiled) :
    replacementFrom c 0 template = .ok (template.map .char) := by
  induction h with
  | nil => rfl
  | char hd _ ih =>
      rw [replacementFrom_char hd, ih]
      rfl
  | @backslash d template halnum hd _ ih =>
      have hescape := replacementEscape_of_isAlphanum_eq_false (c := c) halnum hd template
      rw [replacementFrom_escape (List.suffix_cons d template) hescape, ih]
      rfl

/-- How a template is made up of characters and escapes, with the pieces that they give. -/
inductive TemplateForm : List Char → List ReplacementPiece → Prop
  /-- The empty template. -/
  | nil : TemplateForm [] []
  /-- A character that is no backslash. -/
  | char {d : Char} {template : List Char} {more : List ReplacementPiece} (hd : d ≠ '\\')
      (h : TemplateForm template more) : TemplateForm (d :: template) (.char d :: more)
  /-- A backslash that stays with the character behind it. -/
  | backslash {d : Char} {template : List Char} {more : List ReplacementPiece}
      (halnum : d.isAlphanum = false) (hd : d ≠ '\\') (h : TemplateForm template more) :
      TemplateForm ('\\' :: d :: template) (.char '\\' :: .char d :: more)
  /-- A backslash that gives a piece with what it takes. -/
  | escape {d : Char} {taken template : List Char} {more : List ReplacementPiece}
      (piece : ReplacementPiece) (h : TemplateForm template more) :
      TemplateForm ('\\' :: d :: taken ++ template) (piece :: more)

/-- A template that can be read has this form. -/
lemma templateForm_of_replacementFrom (h : replacementFrom c 0 template = .ok pieces) :
    TemplateForm template pieces := by
  -- an escape may take several characters, so the induction is on the length
  induction hlength : template.length using Nat.strong_induction_on
    generalizing template pieces with
  | _ n ih =>
      match template with
      | [] =>
          cases h
          exact .nil
      | d :: template =>
          by_cases hd : d = '\\'
          · subst hd
            -- the escape is read once to learn what it takes, and again to go on behind that
            have hread := h
            rw [replacementFrom] at hread
            obtain ⟨⟨given, tail⟩, hescape, -⟩ := except_bind_eq_ok.mp hread
            rcases replacementEscape_eq_ok hescape with
              ⟨e, rfl, halnum, he, rfl⟩ | ⟨piece, e, taken, rfl, rfl⟩
            · rw [replacementFrom_escape (List.suffix_cons e tail) hescape] at h
              obtain ⟨more, hmore, rfl⟩ := except_map_eq_ok.mp h
              exact .backslash halnum he (ih tail.length (by simp at hlength; omega) hmore rfl)
            · rw [replacementFrom_escape (List.suffix_append (e :: taken) tail) hescape] at h
              obtain ⟨more, hmore, rfl⟩ := except_map_eq_ok.mp h
              exact .escape piece (ih tail.length (by simp at hlength; omega) hmore rfl)
          · rw [replacementFrom_char hd] at h
            obtain ⟨more, hmore, rfl⟩ := except_map_eq_ok.mp h
            exact .char hd (ih template.length (by simp at hlength; omega) hmore rfl)

/-! ### Weights -/

/-- A backslash weighs more than a whole match, any other character as little as can be. -/
def weight (old s : List Char) : ℕ := (old.length + 1) * s.count '\\' + s.length

lemma weight_append (old s t : List Char) : weight old (s ++ t) = weight old s + weight old t := by
  simp only [weight, List.count_append, List.length_append]
  ring

/-- A piece weighs less than the escape that gives it. -/
lemma weight_standsFor_lt (hold : '\\' ∉ old) (piece : ReplacementPiece) (e : Char)
    (taken : List Char) :
    weight old (piece.standsFor old) < weight old ('\\' :: e :: taken) := by
  have hescape : old.length + 3 ≤ weight old ('\\' :: e :: taken) := by
    have hcount : 1 ≤ ('\\' :: e :: taken).count '\\' := by simp
    have hmul := Nat.mul_le_mul_left (old.length + 1) hcount
    simp only [weight, List.length_cons]
    omega
  have hpiece : weight old (piece.standsFor old) ≤ old.length + 2 := by
    cases piece with
    | char d =>
        have hcount : [d].count '\\' ≤ 1 := List.count_le_length
        have hmul := Nat.mul_le_mul_left (old.length + 1) hcount
        simp only [ReplacementPiece.standsFor, weight, List.length_singleton]
        omega
    | group n =>
        cases n with
        | zero => simp [ReplacementPiece.standsFor, weight, List.count_eq_zero_of_not_mem hold]
        | succ n => simp [ReplacementPiece.standsFor, weight]
  omega

lemma flatMap_standsFor_char (old template : List Char) :
    (template.map ReplacementPiece.char).flatMap (·.standsFor old) = template := by
  induction template with
  | nil => rfl
  | cons d template ih => exact congrArg (d :: ·) ih

/-- The text of a template weighs less than the template, unless all its backslashes stay. -/
lemma TemplateForm.backslashesStay_or_weight_lt (hold : '\\' ∉ old)
    (h : TemplateForm template pieces) :
    (BackslashesStay template ∧ pieces = template.map .char) ∨
      weight old (pieces.flatMap (·.standsFor old)) < weight old template := by
  induction h with
  | nil => exact .inl ⟨.nil, rfl⟩
  | @char d template more hd _ ih =>
      rcases ih with ⟨hstay, rfl⟩ | hlt
      · exact .inl ⟨.char hd hstay, rfl⟩
      · right
        change weight old ([d] ++ more.flatMap (·.standsFor old)) < weight old ([d] ++ template)
        rw [weight_append, weight_append]
        omega
  | @backslash d template more halnum hd _ ih =>
      rcases ih with ⟨hstay, rfl⟩ | hlt
      · exact .inl ⟨.backslash halnum hd hstay, rfl⟩
      · right
        change weight old (['\\', d] ++ more.flatMap (·.standsFor old)) <
          weight old (['\\', d] ++ template)
        rw [weight_append, weight_append]
        omega
  | @escape d taken template more piece _ ih =>
      right
      have hpiece := weight_standsFor_lt hold piece d taken
      have hmore : weight old (more.flatMap (·.standsFor old)) ≤ weight old template := by
        rcases ih with ⟨-, rfl⟩ | hlt
        · rw [flatMap_standsFor_char]
        · exact hlt.le
      change weight old (('\\' :: d :: taken) ++ template) > _
      rw [List.flatMap_cons, weight_append, weight_append]
      omega

/-- A template stands for itself just if all its backslashes stay. -/
lemma templateText_eq_self_iff (hold : '\\' ∉ old) :
    templateText old template = .ok template ↔ BackslashesStay template := by
  constructor
  · intro h
    obtain ⟨pieces, hpieces, htext⟩ := except_map_eq_ok.mp h
    rcases (templateForm_of_replacementFrom hpieces).backslashesStay_or_weight_lt hold with
      ⟨hstay, -⟩ | hlt
    · exact hstay
    · rw [htext] at hlt
      exact absurd hlt (lt_irrefl _)
  · intro hstay
    rw [templateText, hstay.replacementFrom_eq]
    exact congrArg Except.ok (flatMap_standsFor_char old template)

end

end Pattern

namespace Library

open Pattern Text

/-- A replacement without dollar signs refers to no group. -/
lemma groupReferencesFrom_of_not_mem {new : List Char} (h : '$' ∉ new) :
    groupReferencesFrom 0 new = new := by
  induction new with
  | nil => rfl
  | cons c new ih =>
      rw [List.mem_cons, not_or] at h
      have hc : (c == '$') = false := beq_eq_false_iff_ne.mpr (Ne.symm h.1)
      rw [groupReferencesFrom, hc]
      exact congrArg (c :: ·) (ih h.2)

section

variable {s old new flags : String}

/-- Without flags the first occurrence is replaced. -/
lemma replaced_null {parts : List (List Char)} (hparts : Parted old.toList s.toList parts) :
    replaced (.text s) (.text old) (.text new) .null =
      .ok (textValue (substituted false old.toList new.toList parts)) := by
  change Except.ok (textValue (replaceFirst old.toList new.toList s.toList)) = _
  rw [hparts.replaceFirst_eq]
  rfl

/-- With flags but without the one for letters of either case, the occurrences of letters and digits
give way to the text of the template. -/
lemma replaced_flags (hold : old.toList ≠ []) (halnum : ∀ c ∈ old.toList, c.isAlphanum)
    (hnew : '$' ∉ new.toList) (hflags : flags ≠ "") (hcase : 'i' ∉ flags.toList)
    {parts : List (List Char)} (hparts : Parted old.toList s.toList parts) :
    replaced (.text s) (.text old) (.text new) (.text flags) =
      (templateText old.toList new.toList).map fun template =>
        textValue (substituted (flags.toList.contains 'g') old.toList template parts) := by
  have htruthy : (Value.text flags).isTruthy = true := by simpa [Value.isTruthy] using hflags
  have hignore : (patternFlags flags.toList).ignoreCase = false := by
    simpa [patternFlags] using hcase
  have hreplaced : replaced (.text s) (.text old) (.text new) (.text flags) =
      (Pattern.replace (patternFlags flags.toList) (flags.toList.contains 'g') old.toList
        (groupReferencesFrom 0 new.toList) s.toList).map textValue := by
    change (if (Value.text flags).isTruthy then _ else _ : Result) = _
    rw [if_pos htruthy]
    change (Pattern.replace _ _ _ _ _ >>= fun out => pure (textValue out)) = _
    cases Pattern.replace _ _ _ _ _ <;> rfl
  rw [hreplaced, groupReferencesFrom_of_not_mem hnew,
    replace_of_isAlphanum hignore hold halnum hparts]
  cases templateText old.toList new.toList <;> rfl

end

/-- **Literal replacement.**  Without flags the first occurrence of a text of letters and digits
gives way to the new text.  With flags the first occurrence, or each that is found from left to
right, gives way to what the new text stands for as a template.  The new text itself comes out just
if all its backslashes stay, or if nothing is found and the template can be read. -/
theorem literal_replacement {old new flags : String} (hold : old ≠ "")
    (halnum : ∀ c ∈ old.toList, c.isAlphanum) (hnew : '$' ∉ new.toList) (hflags : flags ≠ "")
    (hcase : 'i' ∉ flags.toList) (s : String) :
    ∃ parts, Parted old.toList s.toList parts ∧
      replaced (.text s) (.text old) (.text new) .null =
        .ok (textValue (substituted false old.toList new.toList parts)) ∧
      replaced (.text s) (.text old) (.text new) (.text flags) =
        (templateText old.toList new.toList).map (fun template =>
          textValue (substituted (flags.toList.contains 'g') old.toList template parts)) ∧
      (replaced (.text s) (.text old) (.text new) (.text flags) =
          .ok (textValue (substituted (flags.toList.contains 'g') old.toList new.toList parts)) ↔
        BackslashesStay new.toList ∨
          (¬ old.toList <:+: s.toList ∧ (templateText old.toList new.toList).isOk)) := by
  have hold' : old.toList ≠ [] := by simpa [String.toList_eq_nil_iff] using hold
  have hslash : '\\' ∉ old.toList := fun hmem => absurd (halnum _ hmem) (by decide)
  obtain ⟨parts, hparts⟩ := exists_parted hold' s.toList
  have hflagged := replaced_flags hold' halnum hnew hflags hcase hparts
  refine ⟨parts, hparts, replaced_null hparts, hflagged, ?_⟩
  rw [hflagged, except_map_eq_ok, ← templateText_eq_self_iff hslash, ← hparts.one_lt_length, not_lt]
  simp only [textValue_inj, substituted_inj]
  cases templateText old.toList new.toList with
  | error e => simp [Except.isOk, Except.toBool]
  | ok template => simp [Except.isOk, Except.toBool]

/-- A backslash before a hyphen stays, so with flags as without them it is what is put in. -/
theorem literal_replacement_hyphens :
    ∃ parts, Parted ['b'] "abcab".toList parts ∧
      replaced (.text "abcab") (.text "b") (.text "\\-") .null =
        .ok (textValue (substituted false ['b'] ['\\', '-'] parts)) ∧
      replaced (.text "abcab") (.text "b") (.text "\\-") (.text "gm") =
        .ok (textValue (substituted true ['b'] ['\\', '-'] parts)) ∧
      replaced (.text "abcab") (.text "b") (.text "\\-") (.text "gm") =
        .ok (.text "a\\-ca\\-") := by
  have hletter : ∀ c ∈ "b".toList, c.isAlphanum := by
    intro c hc
    obtain rfl := List.mem_singleton.mp hc
    rfl
  obtain ⟨parts, hparts, hplain, -, hagree⟩ :=
    @literal_replacement "b" "\\-" "gm" (by decide) hletter (by decide) (by decide) (by decide)
      "abcab"
  have hstay : BackslashesStay "\\-".toList := .backslash (by decide) (by decide) .nil
  exact ⟨parts, hparts, hplain, hagree.mpr (.inl hstay), rfl⟩

/-- A backslash before a letter becomes another character, which only happens with flags. -/
theorem template_is_interpreted :
    replaced (.text "abc") (.text "b") (.text "\\n") .null = .ok (.text "a\\nc") ∧
      replaced (.text "abc") (.text "b") (.text "\\n") (.text "m") = .ok (.text "a\nc") := by
  constructor <;> rfl

end Library

end Sigil
