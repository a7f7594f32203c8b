/-
# The grammar of expressions

The grammar relates the tokens of a text to its expressions.  A phrase stands at the start of a list
of tokens: `Argument ts e rest` says that the tokens `ts` begin with the argument `e` and that the
tokens `rest` follow it.  What follows matters in one place only, since a call word is a call
exactly if an opening parenthesis follows it.

A program is a sequence of calls and literal tokens, and adjacent literal texts are one text.
-/
import Mathlib
import Sigil.Node.Parse

namespace Sigil

namespace Grammar

/-- Blanks, as many as one likes. -/
def Blanks (ws : List Token) : Prop := ∀ t ∈ ws, t.isBlank

/-- A bare name: an ASCII letter or a low line, then letters, digits, low lines, points, dollar
signs and hyphens. -/
def IsName (s : String) : Prop :=
  ∃ c cs, s.toList = c :: cs ∧ (c.isAlpha ∨ c = '_') ∧
    ∀ d ∈ cs, d.isAlphanum ∨ d = '_' ∨ d = '.' ∨ d = '$' ∨ d = '-'

mutual

/-- The tokens begin with an argument. -/
inductive Argument : List Token → Node → List Token → Prop
  | number {t : Token} {rest : List Token} : t.kind = .number →
      Argument (t :: rest) (.number t.text) rest
  | string {t : Token} {rest : List Token} : t.kind = .string →
      Argument (t :: rest) (.string t.text) rest
  | name {t : Token} {rest : List Token} : t.kind = .text → IsName t.text →
      Argument (t :: rest) (.ident t.text) rest
  | word {t : Token} {rest : List Token} : t.kind = .text → ¬ t.isBlank → ¬ IsName t.text →
      Argument (t :: rest) (.text t.text) rest
  | callWord {t : Token} {rest : List Token} : t.kind = .call → ¬ startsOpening rest →
      Argument (t :: rest) (.text t.text) rest
  | call {ts rest : List Token} {e : Node} : Call ts e rest → Argument ts e rest
  | group {o c : Token} {ws ws' ts rest : List Token} {e : Node} : o.kind = .opening → Blanks ws →
      Argument ts e (ws' ++ c :: rest) → Blanks ws' → c.kind = .closing →
      Argument (o :: (ws ++ ts)) e rest

/-- The tokens begin with a call. -/
inductive Call : List Token → Node → List Token → Prop
  | empty {w o c : Token} {ws rest : List Token} : w.kind = .call → o.kind = .opening → Blanks ws →
      c.kind = .closing →
      Call (w :: o :: (ws ++ c :: rest)) (.call (calledName w.text) w.text []) rest
  | arguments {w o : Token} {ts rest : List Token} {es : List Node} : w.kind = .call →
      o.kind = .opening → Arguments ts es rest →
      Call (w :: o :: ts) (.call (calledName w.text) w.text es) rest

/-- The tokens begin with one or more arguments and the parenthesis that closes them. -/
inductive Arguments : List Token → List Node → List Token → Prop
  | last {c : Token} {ws ws' ts rest : List Token} {e : Node} : Blanks ws →
      Argument ts e (ws' ++ c :: rest) → Blanks ws' → c.kind = .closing →
      Arguments (ws ++ ts) [e] rest
  | more {c : Token} {ws ws' ts ts' rest : List Token} {e : Node} {es : List Node} : Blanks ws →
      Argument ts e (ws' ++ c :: ts') → Blanks ws' → c.kind = .comma → Arguments ts' es rest →
      Arguments (ws ++ ts) (e :: es) rest

end

/-- The tokens are the items of a program: calls, numbers and texts. -/
inductive Program : List Token → List Node → Prop
  | done : Program [] []
  | call {ts rest : List Token} {e : Node} {es : List Node} : Call ts e rest → Program rest es →
      Program ts (e :: es)
  | number {t : Token} {rest : List Token} {es : List Node} : t.kind = .number → Program rest es →
      Program (t :: rest) (.number t.text :: es)
  | text {t : Token} {rest : List Token} {es : List Node} : t.kind ≠ .number →
      ¬ (t.kind = .call ∧ startsOpening rest) → Program rest es → (∀ e ∈ es.head?, ¬ e.isText) →
      Program (t :: rest) (.text t.text :: es)
  | joined {t : Token} {rest : List Token} {s : String} {es : List Node} : t.kind ≠ .number →
      ¬ (t.kind = .call ∧ startsOpening rest) → Program rest (.text s :: es) →
      Program (t :: rest) (.text (t.text ++ s) :: es)

/-! ### Blanks and names -/

lemma blanks_takeWhile (ts : List Token) : Blanks (ts.takeWhile Token.isBlank) :=
  fun _ ht => List.mem_takeWhile_imp ht

lemma takeWhile_append_skipBlanks (ts : List Token) :
    ts.takeWhile Token.isBlank ++ skipBlanks ts = ts := List.takeWhile_append_dropWhile

/-- A blank is a text, hence no parenthesis. -/
lemma kind_of_isBlank {t : Token} (h : t.isBlank) : t.kind = .text := by
  simp only [Token.isBlank, Bool.and_eq_true, beq_iff_eq] at h
  exact h.1

lemma skipBlanks_append {ws : List Token} (hws : Blanks ws) {t : Token} (ht : ¬ t.isBlank)
    (ts : List Token) : skipBlanks (ws ++ t :: ts) = t :: ts := by
  rw [skipBlanks, List.dropWhile_append_of_pos hws, List.dropWhile_cons_of_neg ht]

lemma startsOpening_blanks {ws : List Token} (hws : Blanks ws) {t : Token} (ht : t.kind ≠ .opening)
    (ts : List Token) : ¬ startsOpening (ws ++ t :: ts) := by
  cases ws with
  | nil => simpa [startsOpening] using ht
  | cons w ws =>
      have hw : w.kind = .text := kind_of_isBlank (hws w (by simp))
      simp [startsOpening, hw]

lemma isBareName_iff {s : String} : isBareName s ↔ IsName s := by
  cases hs : s.toList with
  | nil => simp [isBareName, IsName, hs]
  | cons c cs =>
      simp only [isBareName, IsName, hs, List.cons.injEq, isNameStart, isNameChar,
        Bool.and_eq_true, Bool.or_eq_true, beq_iff_eq, List.all_eq_true]
      constructor
      · rintro ⟨hc, hcs⟩
        exact ⟨c, cs, ⟨rfl, rfl⟩, hc, fun d hd => by simpa [or_assoc] using hcs d hd⟩
      · rintro ⟨c, cs, ⟨rfl, rfl⟩, hc, hcs⟩
        exact ⟨hc, fun d hd => by simpa [or_assoc] using hcs d hd⟩

/-- A bare name is no blank. -/
lemma IsName.not_isBlank {t : Token} (h : IsName t.text) : ¬ t.isBlank := by
  intro hb
  simp only [Token.isBlank, Bool.and_eq_true, Bool.or_eq_true, beq_iff_eq] at hb
  rw [← isBareName_iff] at h
  rcases hb.2 with ((hb | hb) | hb) | hb <;> rw [hb] at h <;> exact absurd h (by decide)

/-! ### How phrases begin -/

lemma Call.head {ts rest : List Token} {e : Node} (h : Call ts e rest) :
    ∃ w o ts', ts = w :: o :: ts' ∧ w.kind = .call ∧ o.kind = .opening := by
  cases h with
  | empty hw ho _ _ => exact ⟨_, _, _, rfl, hw, ho⟩
  | arguments hw ho _ => exact ⟨_, _, _, rfl, hw, ho⟩

/-- The source of a call is its call word. -/
lemma Call.source {ts rest : List Token} {e : Node} (h : Call ts e rest) :
    ∃ name w args ts', e = .call name w.text args ∧ ts = w :: ts' ∧ w.kind = .call := by
  cases h with
  | empty hw _ _ _ => exact ⟨_, _, _, _, rfl, rfl, hw⟩
  | arguments hw _ _ => exact ⟨_, _, _, _, rfl, rfl, hw⟩

/-- An argument begins neither with a blank nor with a parenthesis that closes. -/
lemma Argument.head {ts rest : List Token} {e : Node} (h : Argument ts e rest) :
    ∃ t ts', ts = t :: ts' ∧ ¬ t.isBlank ∧ t.kind ≠ .closing := by
  have other {t : Token} {k : TokenKind} (ht : t.kind = k) (hk : k ≠ .text) : ¬ t.isBlank :=
    fun hb => hk (ht ▸ kind_of_isBlank hb)
  cases h with
  | number ht => exact ⟨_, _, rfl, other ht (by decide), by rw [ht]; decide⟩
  | string ht => exact ⟨_, _, rfl, other ht (by decide), by rw [ht]; decide⟩
  | name ht hn => exact ⟨_, _, rfl, hn.not_isBlank, by rw [ht]; decide⟩
  | word ht hb _ => exact ⟨_, _, rfl, hb, by rw [ht]; decide⟩
  | callWord ht _ => exact ⟨_, _, rfl, other ht (by decide), by rw [ht]; decide⟩
  | call hc =>
      obtain ⟨w, o, ts', rfl, hw, -⟩ := hc.head
      exact ⟨w, _, rfl, other hw (by decide), by rw [hw]; decide⟩
  | group ho _ _ _ _ => exact ⟨_, _, rfl, other ho (by decide), by rw [ho]; decide⟩

/-! ### Phrases in other surroundings -/

mutual

/-- An argument keeps its form before other tokens, unless these begin with a parenthesis that makes
a call of its last word. -/
lemma Argument.frame {ts rest : List Token} {e : Node} (h : Argument ts e rest) :
    ∃ seg, ts = seg ++ rest ∧
      ∀ rest', (startsOpening rest' → startsOpening rest) → Argument (seg ++ rest') e rest' :=
  match h with
  | .number ht => ⟨[_], rfl, fun _ _ => .number ht⟩
  | .string ht => ⟨[_], rfl, fun _ _ => .string ht⟩
  | .name ht hn => ⟨[_], rfl, fun _ _ => .name ht hn⟩
  | .word ht hb hn => ⟨[_], rfl, fun _ _ => .word ht hb hn⟩
  | .callWord ht ho => ⟨[_], rfl, fun _ hr => .callWord ht fun h => ho (hr h)⟩
  | .call hc => by
      obtain ⟨seg, c, -, rfl, hseg⟩ := hc.frame
      exact ⟨seg ++ [c], by simp, fun rest' _ => .call (by simpa using hseg rest')⟩
  | @Argument.group o c ws ws' _ _ _ ho hws ha hws' hc => by
      obtain ⟨seg, rfl, hseg⟩ := ha.frame
      refine ⟨o :: (ws ++ seg ++ ws' ++ [c]), by simp, fun rest' _ => ?_⟩
      have hclose : ¬ startsOpening (ws' ++ c :: rest') :=
        startsOpening_blanks hws' (by rw [hc]; decide) rest'
      simpa using Argument.group ho hws (hseg (ws' ++ c :: rest') fun h => absurd h hclose) hws' hc

/-- A call ends with the parenthesis that closes it, and keeps its form before any other tokens. -/
lemma Call.frame {ts rest : List Token} {e : Node} (h : Call ts e rest) :
    ∃ seg c, c.kind = .closing ∧ ts = seg ++ c :: rest ∧
      ∀ rest', Call (seg ++ c :: rest') e rest' :=
  match h with
  | @Call.empty w o c ws _ hw ho hws hc =>
      ⟨w :: o :: ws, c, hc, rfl, fun _ => .empty hw ho hws hc⟩
  | @Call.arguments w o _ _ _ hw ho has => by
      obtain ⟨seg, c, hc, rfl, hseg⟩ := has.frame
      exact ⟨w :: o :: seg, c, hc, rfl, fun rest' => .arguments hw ho (hseg rest')⟩

lemma Arguments.frame {ts rest : List Token} {es : List Node} (h : Arguments ts es rest) :
    ∃ seg c, c.kind = .closing ∧ ts = seg ++ c :: rest ∧
      ∀ rest', Arguments (seg ++ c :: rest') es rest' :=
  match h with
  | @Arguments.last c ws ws' _ _ _ hws ha hws' hc => by
      obtain ⟨seg, rfl, hseg⟩ := ha.frame
      refine ⟨ws ++ seg ++ ws', c, hc, by simp, fun rest' => ?_⟩
      have hclose : ¬ startsOpening (ws' ++ c :: rest') :=
        startsOpening_blanks hws' (by rw [hc]; decide) rest'
      simpa using Arguments.last hws (hseg (ws' ++ c :: rest') fun h => absurd h hclose) hws' hc
  | @Arguments.more c ws ws' _ _ _ _ _ hws ha hws' hc has => by
      obtain ⟨seg, rfl, hseg⟩ := ha.frame
      obtain ⟨seg', c', hc', rfl, hseg'⟩ := has.frame
      refine ⟨ws ++ seg ++ ws' ++ c :: seg', c', hc', by simp, fun rest' => ?_⟩
      have hcomma : ¬ startsOpening (ws' ++ c :: (seg' ++ c' :: rest')) :=
        startsOpening_blanks hws' (by rw [hc]; decide) _
      simpa using Arguments.more hws
        (hseg (ws' ++ c :: (seg' ++ c' :: rest')) fun h => absurd h hcomma) hws' hc (hseg' rest')

end

/-- A function on tokens that changes at most their positions. -/
def KeepsText (f : Token → Token) : Prop := ∀ t, (f t).kind = t.kind ∧ (f t).text = t.text

section

variable {f : Token → Token}

lemma KeepsText.blanks (hf : KeepsText f) {ws : List Token} (hws : Blanks ws) :
    Blanks (ws.map f) := by
  intro t ht
  obtain ⟨w, hw, rfl⟩ := List.mem_map.mp ht
  simpa only [Token.isBlank, (hf w).1, (hf w).2] using hws w hw

lemma KeepsText.startsOpening (hf : KeepsText f) (ts : List Token) :
    startsOpening (ts.map f) = startsOpening ts := by
  cases ts with
  | nil => rfl
  | cons t ts => simp only [List.map_cons, Sigil.startsOpening, (hf t).1]

mutual

/-- The positions of tokens do not matter. -/
lemma Argument.map (hf : KeepsText f) {ts rest : List Token} {e : Node} (h : Argument ts e rest) :
    Argument (ts.map f) e (rest.map f) :=
  match h with
  | @Argument.number t _ ht => by
      rw [← (hf t).2]
      exact .number ((hf t).1.trans ht)
  | @Argument.string t _ ht => by
      rw [← (hf t).2]
      exact .string ((hf t).1.trans ht)
  | @Argument.name t _ ht hn => by
      rw [← (hf t).2] at hn ⊢
      exact .name ((hf t).1.trans ht) hn
  | @Argument.word t _ ht hb hn => by
      rw [← (hf t).2] at hn ⊢
      refine .word ((hf t).1.trans ht) ?_ hn
      simpa only [Token.isBlank, (hf t).1, (hf t).2] using hb
  | @Argument.callWord t _ ht ho => by
      rw [← (hf t).2]
      exact .callWord ((hf t).1.trans ht) (by rwa [hf.startsOpening])
  | .call hc => .call (hc.map hf)
  | @Argument.group o c ws ws' _ _ _ ho hws ha hws' hc => by
      have ha' := ha.map hf
      simp only [List.map_cons, List.map_append] at ha' ⊢
      exact .group ((hf o).1.trans ho) (hf.blanks hws) ha' (hf.blanks hws') ((hf c).1.trans hc)

lemma Call.map (hf : KeepsText f) {ts rest : List Token} {e : Node} (h : Call ts e rest) :
    Call (ts.map f) e (rest.map f) :=
  match h with
  | @Call.empty w o c ws _ hw ho hws hc => by
      rw [← (hf w).2]
      simp only [List.map_cons, List.map_append]
      exact .empty ((hf w).1.trans hw) ((hf o).1.trans ho) (hf.blanks hws) ((hf c).1.trans hc)
  | @Call.arguments w o _ _ _ hw ho has => by
      rw [← (hf w).2]
      exact .arguments ((hf w).1.trans hw) ((hf o).1.trans ho) (has.map hf)

lemma Arguments.map (hf : KeepsText f) {ts rest : List Token} {es : List Node}
    (h : Arguments ts es rest) : Arguments (ts.map f) es (rest.map f) :=
  match h with
  | @Arguments.last c ws ws' _ _ _ hws ha hws' hc => by
      have ha' := ha.map hf
      simp only [List.map_cons, List.map_append] at ha' ⊢
      exact .last (hf.blanks hws) ha' (hf.blanks hws') ((hf c).1.trans hc)
  | @Arguments.more c ws ws' _ _ _ _ _ hws ha hws' hc has => by
      have ha' := ha.map hf
      simp only [List.map_cons, List.map_append] at ha' ⊢
      exact .more (hf.blanks hws) ha' (hf.blanks hws') ((hf c).1.trans hc) (has.map hf)

end

end

end Grammar

end Sigil
