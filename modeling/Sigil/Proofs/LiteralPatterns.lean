/-
# Patterns that are plain texts

A letter or digit stands for itself in a pattern.  A pattern of nothing else is found at the
occurrences of its text, from left to right, so replacing its matches is replacing them.
-/
import Sigil.Pattern.Replace
import Sigil.Proofs.Occurrences

namespace Sigil.Pattern

open Sigil.Text

/-! ### Reading -/

/-- The pattern of a text in which every character stands for itself. -/
def literals (s : List Char) : Pattern := ofList (s.map fun c => .literal c.toNat)

lemma lexemeAt_of_isAlphanum {c : Char} (h : c.isAlphanum) (rest : List Char) :
    lexemeAt c rest = .ok (.atom (.literal c.toNat), rest) := by
  unfold lexemeAt
  split <;> first | rfl | exact absurd h (by decide)

lemma lexemes_of_isAlphanum {s : List Char} (h : ∀ c ∈ s, c.isAlphanum) :
    lexemes s = .ok (s.map fun c => .atom (.literal c.toNat)) := by
  rw [lexemes]
  induction s with
  | nil => rfl
  | cons c s ih =>
      have hrest := ih fun d hd => h d (List.mem_cons_of_mem c hd)
      rw [lexemesFrom, lexemeAt_of_isAlphanum (h c List.mem_cons_self)]
      change (do let more ← lexemesFrom (s.length - s.length) s; pure (_ :: more)) = _
      rw [Nat.sub_self, hrest]
      rfl

/-- Patterns without parts are put one behind the other. -/
lemma foldlM_step_atom (ps : List Pattern) (st : State) :
    (ps.map Lexeme.atom).foldlM State.step st =
      .ok { st with top := { st.top with items := ps.reverse ++ st.top.items } } := by
  induction ps generalizing st with
  | nil => rfl
  | cons p ps ih =>
      rw [List.map_cons, List.foldlM_cons]
      change (ps.map Lexeme.atom).foldlM State.step (st.push p) = _
      rw [ih]
      simp [State.push, Frame.push]

/-- A text of letters and digits is the pattern in which they stand for themselves. -/
lemma parse_of_isAlphanum {s : List Char} (h : ∀ c ∈ s, c.isAlphanum) :
    parse s = .ok ⟨literals s, 0, []⟩ := by
  have hatoms : (s.map fun c => Lexeme.atom (.literal c.toNat)) =
      (s.map fun c => Pattern.literal c.toNat).map Lexeme.atom := by
    rw [List.map_map]
    rfl
  rw [parse, lexemes_of_isAlphanum h, hatoms]
  change (do let st ← (_ : List Lexeme).foldlM State.step State.start; _) = _
  rw [foldlM_step_atom]
  change Except.ok (Compiled.mk (ofList (_ ++ []).reverse) 0 []) = _
  rw [List.append_nil, List.reverse_reverse, literals]

/-! ### Matching -/

section

variable {f : Flags} {s rest before : List Char} {position : ℕ} {texts : List (ℕ × List Char)}
  {onward : Onward}

lemma run_literals_cons (c : Char) (s : List Char) (r : Reached) :
    run f (literals (c :: s)) r onward =
      takeOne (sameCode f c.toNat) r fun r => run f (literals s) r onward := by
  cases s <;> rfl

lemma sameCode_toNat (hcase : f.ignoreCase = false) (c d : Char) :
    sameCode f c.toNat d = decide (d = c) := by
  rw [Bool.eq_iff_iff]
  simp [sameCode, isCode, hcase, Char.toNat_inj]

/-- The text is taken where it stands. -/
lemma run_literals (hcase : f.ignoreCase = false) :
    run f (literals s) ⟨⟨position, before, s ++ rest⟩, texts⟩ onward =
      onward ⟨⟨position + s.length, s.reverse ++ before, rest⟩, texts⟩ := by
  induction s generalizing position before with
  | nil => rfl
  | cons c s ih =>
      rw [run_literals_cons, takeOne]
      simp only [List.cons_append, sameCode_toNat hcase, decide_true, if_true, Place.next]
      rw [ih]
      simp [Nat.add_right_comm, Nat.add_assoc]

/-- Nothing is taken where the text does not stand. -/
lemma run_literals_eq_none (hcase : f.ignoreCase = false) {r : Reached}
    (h : ¬ s <+: r.place.after) : run f (literals s) r onward = none := by
  induction s generalizing r with
  | nil => exact absurd List.nil_prefix h
  | cons c s ih =>
      rw [run_literals_cons, takeOne]
      cases hafter : r.place.after with
      | nil => rfl
      | cons d t =>
          by_cases hd : d = c
          · subst hd
            rw [hafter, List.cons_prefix_cons] at h
            have hnext : r.place.next.after = t := by rw [Place.next, hafter]
            simp only [sameCode_toNat hcase, decide_true, if_true]
            exact ih (by simpa [hnext] using h)
          · simp [sameCode_toNat hcase, hd]

variable {old part : List Char} {mustAdvance : Bool}

/-- The match of a text at a place where it stands. -/
def literalMatch (position : ℕ) (before old rest : List Char) : Reached :=
  ⟨⟨position + old.length, old.reverse ++ before, rest⟩, []⟩

lemma matchAt_literals (hcase : f.ignoreCase = false) (hold : old ≠ []) :
    matchAt f (literals old) mustAdvance ⟨position, before, old ++ rest⟩ =
      some (literalMatch position before old rest) := by
  rw [matchAt, run_literals hcase]
  simp [hold, literalMatch]

lemma matchAt_literals_eq_none (hcase : f.ignoreCase = false) (h : ¬ old <+: s) :
    matchAt f (literals old) mustAdvance ⟨position, before, s⟩ = none :=
  run_literals_eq_none hcase h

/-! ### Searching -/

lemma searchFrom_literals_eq_none (hcase : f.ignoreCase = false) (h : ¬ old <:+: s) :
    searchFrom f (literals old) mustAdvance position before s = none := by
  induction s generalizing mustAdvance position before with
  | nil =>
      rw [searchFrom, matchAt_literals_eq_none hcase fun hprefix => h hprefix.isInfix]
      rfl
  | cons c s ih =>
      rw [List.infix_cons_iff, not_or] at h
      rw [searchFrom, matchAt_literals_eq_none hcase h.1]
      simp [ih h.2]

/-- The first match is the first occurrence. -/
lemma searchFrom_literals (hcase : f.ignoreCase = false) (hold : old ≠ [])
    (h : Leftmost old part rest) :
    searchFrom f (literals old) mustAdvance position before (part ++ old ++ rest) =
      some ⟨part, ⟨position + part.length, part.reverse ++ before, old ++ rest⟩,
        literalMatch (position + part.length) (part.reverse ++ before) old rest⟩ := by
  induction part generalizing mustAdvance position before with
  | nil =>
      rw [List.nil_append]
      cases hs : old ++ rest with
      | nil => exact absurd (List.append_eq_nil_iff.mp hs).1 hold
      | cons c t =>
          rw [searchFrom, ← hs, matchAt_literals hcase hold]
          rfl
  | cons c part ih =>
      rw [List.cons_append, List.cons_append, searchFrom,
        matchAt_literals_eq_none hcase h.not_prefix]
      dsimp only
      rw [ih h.tail, Nat.add_right_comm]
      simp [Nat.add_assoc]

/-! ### Replacing -/

/-- The text that a piece of a replacement stands for where no group has a text. -/
def ReplacementPiece.standsFor (matched : List Char) : ReplacementPiece → List Char
  | char c => [c]
  | group n => if n == 0 then matched else []

lemma text_eq_standsFor (skipped : List Char) (piece : ReplacementPiece) :
    piece.text ⟨skipped, ⟨position, before, old ++ rest⟩, literalMatch position before old rest⟩ =
      piece.standsFor old := by
  cases piece with
  | char c => rfl
  | group n => simp [ReplacementPiece.text, ReplacementPiece.standsFor, literalMatch]

/-- The first matches of a text give way to the replacement, as many as asked for. -/
lemma replaceFrom_literals (hcase : f.ignoreCase = false) (hold : old ≠ [])
    {parts : List (List Char)} (hparts : Parted old s parts) (pieces : List ReplacementPiece)
    (n : ℕ) :
    replaceFrom f (literals old) pieces n mustAdvance ⟨position, before, s⟩ =
      rejoin old (pieces.flatMap (·.standsFor old)) n parts := by
  induction hparts generalizing n mustAdvance position before with
  | last h =>
      cases n with
      | zero => rfl
      | succ n =>
          rw [replaceFrom, search, searchFrom_literals_eq_none hcase h]
          rfl
  | @found part rest parts h hrest ih =>
      cases n with
      | zero => exact ((Parted.found h hrest).rejoin_zero _).symm
      | succ n =>
          rw [replaceFrom, search, searchFrom_literals hcase hold h,
            rejoin_cons_succ n part hrest.ne_nil]
          simp only [text_eq_standsFor]
          rw [literalMatch, ih]

end

/-- The text that a template stands for where a match without groups gives way to it. -/
def templateText (old template : List Char) : Except Fault (List Char) :=
  (replacementFrom ⟨literals old, 0, []⟩ 0 template).map (·.flatMap (·.standsFor old))

/-- Replacing the matches of letters and digits is replacing their occurrences by the text that the
template stands for, all of them or the first. -/
lemma replace_of_isAlphanum {f : Flags} (hcase : f.ignoreCase = false) {old s : List Char}
    (hold : old ≠ []) (halnum : ∀ c ∈ old, c.isAlphanum) {parts : List (List Char)}
    (hparts : Parted old s parts) (everywhere : Bool) (template : List Char) :
    replace f everywhere old template s =
      (templateText old template).map fun new => substituted everywhere old new parts := by
  have hall : parts.length ≤ 2 * s.length + 2 + 1 := by
    have hle := hparts.length_le hold
    omega
  rw [replace, parse_of_isAlphanum halnum]
  change (do let pieces ← replacementFrom _ 0 template; _) = _
  rw [templateText]
  cases replacementFrom ⟨literals old, 0, []⟩ 0 template with
  | error e => rfl
  | ok pieces =>
      change Except.ok _ = Except.ok _
      rw [replaceFrom_literals hcase hold hparts]
      cases everywhere with
      | false => rfl
      | true => exact congrArg _ (rejoin_of_length_le hall)

end Sigil.Pattern
