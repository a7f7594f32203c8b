/-
# Tokens tile the text

The tokens of a text lie side by side and cover it: nothing is lost, nothing is added but the final
mark, and each token has the shape of its kind.  A text that is not cut has a string without end.
Strings begin only between the parentheses of a call, so a call word and its parenthesis stand
before the quote.

Whether a quote is escaped is decided by the number of backslashes right before it.  The scanner
does not count them: it passes over the character after a backslash.
-/
import Sigil.Proofs.Scanning

namespace Sigil

/-! ### Quotes -/

/-- After these characters a quote is not escaped: an even number of backslashes stands right before
it. -/
def Unescaped (before : List Char) : Prop := Even (before.rtakeWhile (· == '\\')).length

/-- The text has a quote that is not escaped. -/
def HasBareQuote (s : List Char) : Prop :=
  ∃ before after, s = before ++ '\'' :: after ∧ Unescaped before

lemma unescaped_nil : Unescaped [] := by simp [Unescaped]

lemma unescaped_concat (s : List Char) (c : Char) :
    Unescaped (s ++ [c]) ↔ (c = '\\' → ¬ Unescaped s) := by
  unfold Unescaped
  by_cases hc : c = '\\'
  · rw [List.rtakeWhile_concat_pos _ _ _ (by simpa using hc), List.length_append,
      List.length_singleton, Nat.even_add_one]
    simp [hc]
  · rw [List.rtakeWhile_concat_neg _ _ _ (by simpa using hc)]
    simp [hc]

/-- Characters after which a quote is not escaped do not matter for later quotes. -/
lemma unescaped_append {before : List Char} (h : Unescaped before) (s : List Char) :
    Unescaped (before ++ s) ↔ Unescaped s := by
  induction s using List.reverseRecOn with
  | nil => simpa [unescaped_nil] using h
  | append_singleton s c ih => rw [← List.append_assoc, unescaped_concat, unescaped_concat, ih]

lemma unescaped_singleton {c : Char} (hc : c ≠ '\\') : Unescaped [c] :=
  (unescaped_concat [] c).mpr fun h => absurd h hc

lemma unescaped_pair (c : Char) : Unescaped ['\\', c] := by
  have hfirst : ¬ Unescaped ['\\'] := fun h => (unescaped_concat [] '\\').mp h rfl unescaped_nil
  exact (unescaped_concat ['\\'] c).mpr fun _ => hfirst

lemma not_hasBareQuote_nil : ¬ HasBareQuote [] := by
  rintro ⟨before, after, h, -⟩
  simp at h

/-- Of characters that end in no open backslash, the quotes are those inside and those after. -/
lemma hasBareQuote_append {front : List Char} (hfront : Unescaped front)
    (hnone : ¬ HasBareQuote front) (s : List Char) :
    HasBareQuote (front ++ s) ↔ HasBareQuote s := by
  constructor
  · rintro ⟨before, after, h, hbefore⟩
    rcases List.append_eq_append_iff.mp h with ⟨rest, rfl, rfl⟩ | ⟨rest, hfront', hrest⟩
    · exact ⟨rest, after, rfl, (unescaped_append hfront rest).mp hbefore⟩
    · cases rest with
      | nil => exact ⟨[], after, hrest.symm, unescaped_nil⟩
      | cons x rest =>
          obtain ⟨rfl, -⟩ := List.cons.inj hrest
          exact absurd ⟨before, rest, hfront', hbefore⟩ hnone
  · rintro ⟨before, after, rfl, hbefore⟩
    exact ⟨front ++ before, after, by simp, (unescaped_append hfront before).mpr hbefore⟩

lemma hasBareQuote_cons {c : Char} (hc : c ≠ '\\') (hquote : c ≠ '\'') (s : List Char) :
    HasBareQuote (c :: s) ↔ HasBareQuote s := by
  refine hasBareQuote_append (unescaped_singleton hc) ?_ s
  rintro ⟨before, after, h, -⟩
  cases before with
  | nil => exact hquote (List.cons.inj h).1
  | cons => simp at h

lemma hasBareQuote_escape (c : Char) (s : List Char) :
    HasBareQuote ('\\' :: c :: s) ↔ HasBareQuote s := by
  refine hasBareQuote_append (unescaped_pair c) ?_ s
  rintro ⟨before, after, h, hbefore⟩
  match before with
  | [] => simp at h
  | [d] =>
      obtain rfl : '\\' = d := (List.cons.inj h).1
      exact (unescaped_concat [] '\\').mp hbefore rfl unescaped_nil
  | _ :: _ :: _ => simp at h

/-- The characters between the quotes of a string. -/
def IsStringBody (body : List Char) : Prop := ¬ HasBareQuote body ∧ Unescaped body

lemma isStringBody_nil : IsStringBody [] := ⟨not_hasBareQuote_nil, unescaped_nil⟩

lemma IsStringBody.cons {c : Char} {body : List Char} (h : IsStringBody body) (hc : c ≠ '\\')
    (hquote : c ≠ '\'') : IsStringBody (c :: body) :=
  ⟨fun hbare => h.1 ((hasBareQuote_cons hc hquote body).mp hbare),
    (unescaped_append (unescaped_singleton hc) body).mpr h.2⟩

lemma IsStringBody.escape {body : List Char} (h : IsStringBody body) (c : Char) :
    IsStringBody ('\\' :: c :: body) :=
  ⟨fun hbare => h.1 ((hasBareQuote_escape c body).mp hbare),
    (unescaped_append (unescaped_pair c) body).mpr h.2⟩

/-- A string ends with the first quote that is not escaped. -/
lemma stringTail?_body {s t : List Char} (h : stringTail? s = some t) :
    ∃ body, t = body ++ ['\''] ∧ IsStringBody body := by
  fun_induction stringTail? s generalizing t with
  | case1 => simp at h
  | case2 => simp at h
  | case3 c rest ih =>
      obtain ⟨u, hu, rfl⟩ := Option.map_eq_some_iff.mp h
      obtain ⟨body, rfl, hbody⟩ := ih hu
      exact ⟨'\\' :: c :: body, rfl, hbody.escape c⟩
  | case4 c rest _ _ hc =>
      obtain rfl : c = '\'' := by simpa using hc
      obtain rfl : ['\''] = t := by simpa using h
      exact ⟨[], rfl, isStringBody_nil⟩
  | case5 c rest hnil hcons hc ih =>
      obtain ⟨u, hu, rfl⟩ := Option.map_eq_some_iff.mp h
      obtain ⟨body, rfl, hbody⟩ := ih hu
      exact ⟨c :: body, rfl, hbody.cons (ne_backslash hnil hcons) (by simpa using hc)⟩

/-- A string without end has no quote that is not escaped. -/
lemma not_hasBareQuote_of_stringTail? {s : List Char} (h : stringTail? s = none) :
    ¬ HasBareQuote s := by
  fun_induction stringTail? s with
  | case1 => exact not_hasBareQuote_nil
  | case2 =>
      rintro ⟨before, after, h, -⟩
      cases before <;> simp at h
  | case3 c rest ih =>
      rw [hasBareQuote_escape]
      exact ih (Option.map_eq_none_iff.mp h)
  | case4 => simp at h
  | case5 c rest hnil hcons hc ih =>
      rw [hasBareQuote_cons (ne_backslash hnil hcons) (by simpa using hc)]
      exact ih (Option.map_eq_none_iff.mp h)

/-! ### Shapes of tokens -/

section

variable (isName : String → Bool)

/-- A sigil and a name that is registered when it is written in lower case. -/
def SpellsCall (word : List Char) : Prop :=
  ∃ name, word = sigil :: name ∧ name ≠ [] ∧ (∀ c ∈ name, isWordChar c) ∧
    isName (String.ofList (Text.lower name))

/-- The shapes of the tokens of each kind. -/
inductive Shaped : TokenKind → List Char → Prop
  | blank {c : Char} : isSeparator c → Shaped .text [c]
  | word {c : Char} {rest : List Char} : structural? c = none → ¬ isSeparator c →
      (∀ d ∈ rest, isWordChar d) → Shaped .text (c :: rest)
  | call {word : List Char} : SpellsCall isName word → Shaped .call word
  | whole {digits : List Char} : digits ≠ [] → (∀ d ∈ digits, isNumeralDigit d) →
      Shaped .number digits
  | fraction {digits more : List Char} : digits ≠ [] → (∀ d ∈ digits, isNumeralDigit d) →
      more ≠ [] → (∀ d ∈ more, isNumeralDigit d) → Shaped .number (digits ++ '.' :: more)
  | string {body : List Char} : IsStringBody body → Shaped .string ('\'' :: body ++ ['\''])
  | mark {c : Char} {kind : TokenKind} : structural? c = some kind → Shaped kind [c]

variable {isName}

lemma spellsCall_of_name {p : List Char} (h : isCallWord isName p)
    (hp : ∀ c ∈ p.tail, isWordChar c) : SpellsCall isName p := by
  unfold isCallWord at h
  split at h
  · rename_i c rest
    exact ⟨c :: rest, rfl, by simp, hp, by simpa [normalizeName] using h⟩
  · simp at h

/-- The number at the start of a text is digits, or digits with a point between them. -/
lemma shaped_numberAt {c : Char} (hc : isNumeralDigit c) (s : List Char) :
    Shaped isName .number (numberAt (c :: s)) := by
  have hwhole : (c :: s).takeWhile isNumeralDigit ≠ [] := by
    simp [List.takeWhile_cons_of_pos hc]
  have hdigits (l : List Char) : ∀ d ∈ l.takeWhile isNumeralDigit, isNumeralDigit d :=
    fun d hd => List.mem_takeWhile_imp hd
  rw [numberAt]
  split
  · dsimp only
    split
    · exact .whole hwhole (hdigits _)
    · next hmore => exact .fraction hwhole (hdigits _) (by simpa using hmore) (hdigits _)
  · exact .whole hwhole (hdigits _)

/-- Pieces have the shapes of tokens. -/
lemma shaped_of_pieceAt? {depth : ℕ} {c : Char} {s p : List Char} {kind : TokenKind}
    (h : pieceAt? isName depth c s = some (kind, p)) : Shaped isName kind p := by
  by_cases hblank : isSeparator c
  · obtain ⟨rfl, rfl⟩ : .text = kind ∧ [c] = p := by simpa [pieceAt?, hblank] using h
    exact .blank hblank
  cases hmark : structural? c with
  | some k =>
      obtain ⟨rfl, rfl⟩ : k = kind ∧ [c] = p := by simpa [pieceAt?, hblank, hmark] using h
      exact .mark hmark
  | none =>
      have hword : ∀ d ∈ s.takeWhile isWordChar, isWordChar d :=
        fun d hd => List.mem_takeWhile_imp hd
      cases pieceAt?_form h with
      | blank hc => exact absurd hc hblank
      | mark hk => simp [hmark] at hk
      | number hc => exact shaped_numberAt hc s
      | string hc _ ht =>
          subst hc
          obtain ⟨body, rfl, hbody⟩ := stringTail?_body ht
          exact .string hbody
      | call hw => exact .call (spellsCall_of_name hw hword)
      | word => exact .word hmark hblank hword

end

/-! ### Tokens side by side -/

/-- The tokens cover the text between two offsets: each begins where the one before it ends, is not
empty, and is the slice of the text at its place. -/
inductive Tiles (text : List Char) : ℕ → List Token → ℕ → Prop
  | nil {n : ℕ} : Tiles text n [] n
  | cons {n stop : ℕ} {t : Token} {ts : List Token} : t.position = n → t.text ≠ "" →
      t.text.toList = (text.drop n).take t.text.length →
      Tiles text (n + t.text.length) ts stop → Tiles text n (t :: ts) stop

/-- Consecutive pieces tile the text. -/
lemma tiles_place (before after : List Char) {ps : List Piece} (hps : ∀ piece ∈ ps, piece.2 ≠ []) :
    Tiles (before ++ spelling ps ++ after) before.length (place before.length ps)
      (before.length + (spelling ps).length) := by
  induction ps generalizing before with
  | nil => exact .nil
  | cons piece ps ih =>
      obtain ⟨kind, p⟩ := piece
      obtain ⟨hp, hps⟩ := List.forall_mem_cons.mp hps
      have hrest := ih (before ++ p) hps
      simp only [List.length_append, List.append_assoc] at hrest
      refine .cons rfl ?_ ?_ ?_
      · simpa using hp
      · simp
      · simpa [Nat.add_assoc] using hrest

/-! ### Texts that are not cut -/

section

variable {isName : String → Bool}

/-- The scanner fails at a string without end, and nowhere else. -/
lemma scanFrom_error {fuel position : ℕ} {st : ScanState} {cs : List Char}
    {e : UnterminatedString} (hf : cs.length ≤ fuel)
    (h : scanFrom isName fuel st position cs = .error e) :
    ∃ ps c s, Cut isName st cs ps (c :: s) ∧
      pieceAt? isName (st.afterAll (ps.map Prod.fst)).depth c s = none ∧
      e = ⟨position + (spelling ps).length, String.ofList ((c :: s).take 20)⟩ := by
  induction fuel generalizing st position cs with
  | zero => simp [scanFrom] at h
  | succ fuel ih =>
      cases cs with
      | nil => simp [scanFrom] at h
      | cons c s =>
          rw [scanFrom] at h
          split at h
          · next hp =>
              cases h
              exact ⟨[], c, s, .done, hp, rfl⟩
          · next kind p hp =>
              obtain ⟨q, rfl, t, rfl⟩ := (pieceAt?_form hp).start
              have hdrop : (c :: (q ++ t)).drop (c :: q).length = t := by simp
              have hlen : t.length ≤ fuel := by
                simp only [List.length_cons, List.length_append] at hf
                omega
              rw [hdrop, except_bind_eq_error] at h
              rcases h with h | ⟨tokens, -, h⟩
              · obtain ⟨ps, d, u, hcut, hnone, rfl⟩ := ih hlen h
                refine ⟨(kind, c :: q) :: ps, d, u, .piece hp rfl hcut, hnone, ?_⟩
                rw [spelling_cons, List.length_append, Nat.add_assoc]
              · cases h

lemma Cut.shaped {st : ScanState} {cs rest : List Char} {ps : List Piece}
    (h : Cut isName st cs ps rest) : ∀ piece ∈ ps, Shaped isName piece.1 piece.2 := by
  induction h with
  | done => simp
  | piece hp _ _ ih => exact List.forall_mem_cons.mpr ⟨shaped_of_pieceAt? hp, ih⟩

/-- Only a string without end keeps a piece from being cut off. -/
lemma pieceAt?_eq_none {depth : ℕ} {c : Char} {s : List Char}
    (h : pieceAt? isName depth c s = none) : c = '\'' ∧ depth ≠ 0 ∧ stringTail? s = none := by
  unfold pieceAt? at h
  split at h
  · cases h
  · split at h
    · cases h
    · split at h
      · cases h
      · split at h
        · next hc =>
            simp only [Bool.and_eq_true, beq_iff_eq, bne_iff_ne] at hc
            exact ⟨hc.1, hc.2, Option.map_eq_none_iff.mp h⟩
        · cases h

/-- Parentheses are opened by a call word that stands right before one. -/
lemma call_before_of_depth {st : ScanState} {kinds : List TokenKind} (hst : st.depth = 0)
    (h : (st.afterAll kinds).depth ≠ 0) :
    (st.afterCall = true ∧ ∃ more, kinds = .opening :: more) ∨
      ∃ before after, kinds = before ++ .call :: .opening :: after := by
  induction kinds generalizing st with
  | nil => exact absurd hst h
  | cons kind kinds ih =>
      rw [afterAll_cons] at h
      by_cases hopen : kind = .opening ∧ st.afterCall = true
      · obtain ⟨rfl, hcall⟩ := hopen
        exact .inl ⟨hcall, kinds, rfl⟩
      · have hdepth : (st.after kind).depth = 0 := by
          cases kind <;> simp_all [ScanState.after]
        rcases ih hdepth h with ⟨hcall, more, rfl⟩ | ⟨before, after, rfl⟩
        · have hkind : kind = .call := by
            cases kind <;> simp_all [ScanState.after]
          exact .inr ⟨[], more, by rw [hkind]; rfl⟩
        · exact .inr ⟨kind :: before, after, rfl⟩

end

/-- At the offset stands a quote inside the parentheses of a call, and no later quote ends the
string that begins there. -/
def UnclosedAt (isName : String → Bool) (text : List Char) (position : ℕ) : Prop :=
  ∃ before word inside after, text = before ++ word ++ '(' :: inside ++ '\'' :: after ∧
    position = (before ++ word ++ '(' :: inside).length ∧ SpellsCall isName word ∧
    ¬ HasBareQuote after

/-- A division of the kinds of pieces at a call word with its parenthesis divides the pieces. -/
lemma Cut.call_of_kinds {isName : String → Bool} {st : ScanState} {cs rest : List Char}
    {ps : List Piece} {before after : List TokenKind} (h : Cut isName st cs ps rest)
    (hkinds : ps.map Prod.fst = before ++ .call :: .opening :: after) :
    ∃ front word inside, spelling ps = front ++ word ++ '(' :: inside ∧
      SpellsCall isName word := by
  obtain ⟨qs, rs, rfl, -, hrs⟩ := List.map_eq_append_iff.mp hkinds
  obtain ⟨⟨_, word⟩, us, rfl, rfl, hus⟩ := List.map_eq_cons_iff.mp hrs
  obtain ⟨⟨_, mark⟩, vs, rfl, rfl, -⟩ := List.map_eq_cons_iff.mp hus
  obtain ⟨_, _, _, hword⟩ := h.form (.call, word) (by simp)
  obtain ⟨_, _, _, hmark⟩ := h.form (.opening, mark) (by simp)
  have hmark' : mark = ['('] := by
    cases hmark with
    | mark hk => rcases structural?_kind hk with ⟨rfl, -⟩ | ⟨-, hk'⟩ | ⟨-, hk'⟩ <;> simp_all
  obtain ⟨hcall, hchars⟩ := hword.call_word
  exact ⟨spelling qs, word, spelling vs, by simp [hmark'], spellsCall_of_name hcall hchars⟩

/-- **Lossless tokenization.**  The tokens of a text tile it from its start to its end, where the
empty final mark stands, and each has the shape of its kind.  A text without tokens has, after a
call word and its parenthesis, a string without end; the error gives its offset and the characters
from there on. -/
theorem tokenize_tiles (isName : String → Bool) (text : String) :
    match tokenize isName text with
    | .ok tokens => ∃ tiles, tokens = tiles ++ [⟨.ending, "", text.length⟩] ∧
        Tiles text.toList 0 tiles text.length ∧
        ∀ t ∈ tiles, Shaped isName t.kind t.text.toList
    | .error e => UnclosedAt isName text.toList e.position ∧
        e.excerpt.toList = (text.toList.drop e.position).take 20 := by
  cases h : tokenize isName text with
  | ok tokens =>
      obtain ⟨ps, hcut, rfl⟩ := tokenize_eq_ok_iff.mp h
      have htext : text.toList = spelling ps := by simpa using hcut.spelling_append
      refine ⟨place 0 ps, rfl, ?_, fun t ht => ?_⟩
      · have hps : ∀ piece ∈ ps, piece.2 ≠ [] := by
          intro piece hpiece
          obtain ⟨_, _, _, hform⟩ := hcut.form piece hpiece
          obtain ⟨q, hq, -⟩ := hform.start
          simp [hq]
        have htiles := tiles_place [] [] hps
        rw [← String.length_toList]
        simpa [htext] using htiles
      · obtain ⟨p, hp, htoken⟩ := mem_place ht
        rw [htoken, String.toList_ofList]
        exact hcut.shaped _ hp
  | error e =>
      obtain ⟨ps, c, s, hcut, hnone, rfl⟩ := scanFrom_error (String.length_toList).le h
      obtain ⟨rfl, hdepth, htail⟩ := pieceAt?_eq_none hnone
      have htext := hcut.spelling_append
      rcases call_before_of_depth rfl hdepth with ⟨hcall, -⟩ | ⟨before, after, hkinds⟩
      · cases hcall
      · obtain ⟨front, word, inside, hspell, hword⟩ := hcut.call_of_kinds hkinds
        refine ⟨⟨front, word, inside, s, by rw [htext, hspell], ?_, hword,
          not_hasBareQuote_of_stringTail? htail⟩, ?_⟩
        · rw [Nat.zero_add, hspell]
        · simp [htext]

end Sigil
