/-
# Printing expressions and reading them back

The printed form of expressions drops the parentheses around arguments and puts a comma and a blank
between them; everything else is spelled as it was read.  An argument without its parentheses is one
token or a call, and a token means by itself what it means before a comma, a blank or a parenthesis.
At the top level, literal text looks at most one character past the word that it ends with, and that
character is the sigil of a call or the end, in the text as in its printed form.  So a text that is
parsed is printed as a text that is parsed to the same expressions.
-/
import Sigil.Node.Print
import Sigil.Proofs.Decomposition

namespace Sigil

variable {isName : String → Bool}

/-! ### Pieces that stand alone -/

lemma numberAt_digits {ds : List Char} (h : ∀ c ∈ ds, isNumeralDigit c) : numberAt ds = ds := by
  rw [numberAt, List.dropWhile_eq_nil_iff.mpr h]
  exact List.takeWhile_eq_self_iff.mpr h

lemma numberAt_fraction {ds fs : List Char} (hds : ∀ c ∈ ds, isNumeralDigit c)
    (hfs : ∀ c ∈ fs, isNumeralDigit c) (hne : fs ≠ []) :
    numberAt (ds ++ '.' :: fs) = ds ++ '.' :: fs := by
  have hpoint : ¬ isNumeralDigit '.' := by decide
  rw [numberAt, List.takeWhile_append_of_pos hds, List.dropWhile_append_of_pos hds,
    List.takeWhile_cons_of_neg hpoint, List.dropWhile_cons_of_neg hpoint, List.append_nil]
  simp [List.takeWhile_eq_self_iff.mpr hfs, hne]

/-- A number is the number at its own start. -/
lemma numberAt_numberAt (s : List Char) : numberAt (numberAt s) = numberAt s := by
  have hdigits (s : List Char) : ∀ c ∈ s.takeWhile isNumeralDigit, isNumeralDigit c :=
    fun c hc => List.mem_takeWhile_imp hc
  obtain h | ⟨rest, hne, h⟩ : numberAt s = s.takeWhile isNumeralDigit ∨
      ∃ rest : List Char, rest.takeWhile isNumeralDigit ≠ [] ∧
        numberAt s = s.takeWhile isNumeralDigit ++ '.' :: rest.takeWhile isNumeralDigit := by
    rw [numberAt]
    split
    · rename_i rest _
      dsimp only
      split
      · exact .inl rfl
      · next hfraction => exact .inr ⟨rest, by simpa using hfraction, rfl⟩
    · exact .inl rfl
  · rw [h, numberAt_digits (hdigits s)]
  · rw [h, numberAt_fraction (hdigits s) (hdigits rest) hne]

/-- The depth matters only to a quote. -/
lemma pieceAt?_depth {depth depth' : ℕ} {c : Char} (h : c = '\'' → (depth = 0 ↔ depth' = 0))
    (s : List Char) : pieceAt? isName depth c s = pieceAt? isName depth' c s := by
  by_cases hc : c = '\''
  · have hdepth : (depth != 0) = (depth' != 0) := by
      rw [Bool.eq_iff_iff, bne_iff_ne, bne_iff_ne, ne_eq, ne_eq, h hc]
    rw [pieceAt?, pieceAt?, hdepth]
  · have hquote : (c == '\'') = false := by simpa using hc
    rw [pieceAt?, pieceAt?, hquote, Bool.false_and, Bool.false_and]

/-- A piece that is cut off a text is the piece at its own start. -/
lemma pieceAt?_alone {depth : ℕ} {c : Char} {q rest : List Char} {kind : TokenKind}
    (h : pieceAt? isName depth c (q ++ rest) = some (kind, c :: q)) :
    pieceAt? isName depth c q = some (kind, c :: q) := by
  rw [pieceAt?] at h ⊢
  split at h
  · next hblank => rwa [if_pos hblank]
  · next hblank =>
      rw [if_neg hblank]
      cases hmark : structural? c with
      | some k => simpa only [hmark] using h
      | none =>
          simp only [hmark] at h ⊢
          split at h
          · next hdigit =>
              simp only [Option.some.injEq, Prod.mk.injEq] at h
              obtain ⟨rfl, hnumber⟩ := h
              rw [if_pos hdigit, ← hnumber, numberAt_numberAt]
          · next hdigit =>
              rw [if_neg hdigit]
              split at h
              · next hquote =>
                  obtain ⟨t, ht, heq⟩ := Option.map_eq_some_iff.mp h
                  simp only [Prod.mk.injEq, List.cons.injEq, true_and] at heq
                  obtain ⟨rfl, rfl⟩ := heq
                  rw [if_pos hquote, stringTail?_of_append ht le_rfl, Option.map_some]
              · next hquote =>
                  simp only [Option.some.injEq, Prod.mk.injEq, List.cons.injEq, true_and] at h
                  obtain ⟨hkind, htake⟩ := h
                  have hself : q.takeWhile isWordChar = q :=
                    List.takeWhile_eq_self_iff.mpr fun d hd => List.mem_takeWhile_imp (htake ▸ hd)
                  rw [if_neg hquote, hself, ← hkind, htake]

/-! ### Arguments without parentheses around them -/

namespace Grammar

/-- The argument that a single token is. -/
inductive Atom : TokenKind → String → Node → Prop
  | number {s : String} : Atom .number s (.number s)
  | string {s : String} : Atom .string s (.string s)
  | name {s : String} : IsName s → Atom .text s (.ident s)
  | word {s : String} : ¬ (Token.mk .text s 0).isBlank → ¬ IsName s → Atom .text s (.text s)
  | callWord {s : String} : Atom .call s (.text s)

end Grammar

/-- What arguments are: a token that the scanner cuts within arguments, or a call. -/
inductive ArgumentForm (isName : String → Bool) : Node → Prop
  | atom {kind : TokenKind} {c : Char} {q : List Char} {e : Node} :
      pieceAt? isName 1 c q = some (kind, c :: q) → Grammar.Atom kind (String.ofList (c :: q)) e →
      ArgumentForm isName e
  | call {q : List Char} {args : List Node} :
      pieceAt? isName 0 sigil q = some (.call, sigil :: q) →
      (∀ e ∈ args, ArgumentForm isName e) →
      ArgumentForm isName (.call (calledName (String.ofList (sigil :: q)))
        (String.ofList (sigil :: q)) args)

/-- The tokens are cut off a text, from this state to its end. -/
def CutTo (isName : String → Bool) (st : ScanState) (ts : List Token) : Prop :=
  ∃ position cs ps, Cut isName st cs ps [] ∧ place position ps = ts

/-- The first token stands alone as it does in the text. -/
lemma CutTo.first {st : ScanState} {t : Token} {ts : List Token}
    (h : CutTo isName st (t :: ts)) :
    (∃ c q, t.text = String.ofList (c :: q) ∧
      pieceAt? isName st.depth c q = some (t.kind, c :: q)) ∧
        CutTo isName (st.after t.kind) ts := by
  obtain ⟨position, cs, ps, hcut, hts⟩ := h
  obtain ⟨c, q, mid, rs, htext, -, hp, hmid, hrest⟩ := hcut.first hts
  exact ⟨⟨c, q, htext, pieceAt?_alone hp⟩, _, mid, rs, hmid, hrest⟩

namespace Grammar

lemma Blanks.cutTo {ws ts : List Token} (hws : Blanks ws) {st : ScanState}
    (h : CutTo isName st (ws ++ ts)) : ∃ st' : ScanState, st'.depth = st.depth ∧
      CutTo isName st' ts := by
  induction ws generalizing st with
  | nil => exact ⟨st, rfl, h⟩
  | cons w ws ih =>
      have hw : w.kind = .text := kind_of_isBlank (hws w (by simp))
      obtain ⟨st', hst', hts⟩ := ih (fun t ht => hws t (by simp [ht])) h.first.2
      refine ⟨st', hst'.trans ?_, hts⟩
      rw [hw]
      rfl

/-- A single token within arguments is an argument of its own. -/
lemma Atom.form {t : Token} {ts : List Token} {st : ScanState} {e : Node}
    (h : Atom t.kind t.text e) (hd : st.depth ≠ 0) (hcut : CutTo isName st (t :: ts)) :
    ArgumentForm isName e := by
  obtain ⟨⟨c, q, htext, hp⟩, -⟩ := hcut.first
  have hdepth : st.depth = 0 ↔ 1 = 0 := by simpa using hd
  rw [pieceAt?_depth fun _ => hdepth] at hp
  exact .atom hp (htext ▸ h)

/-- A call word that is cut off a text anywhere. -/
lemma callWord_form {t : Token} {ts : List Token} {st : ScanState} (ht : t.kind = .call)
    (hcut : CutTo isName st (t :: ts)) :
    ∃ q, t.text = String.ofList (sigil :: q) ∧
      pieceAt? isName 0 sigil q = some (.call, sigil :: q) := by
  obtain ⟨⟨c, q, htext, hp⟩, -⟩ := hcut.first
  rw [ht] at hp
  obtain ⟨_, hword⟩ := sigil_of_isCallWord (pieceAt?_form hp).call_word.1
  obtain ⟨rfl, -⟩ := List.cons.inj hword
  have hquote : sigil ≠ '\'' := by decide
  rw [pieceAt?_depth fun h => absurd h hquote] at hp
  exact ⟨q, htext, hp⟩

mutual

/-- The scanner comes back to the depth at which it cut an argument. -/
lemma Argument.form {ts rest : List Token} {e : Node} (h : Argument ts e rest) {st : ScanState}
    (hd : st.depth ≠ 0) (hcut : CutTo isName st ts) :
    ArgumentForm isName e ∧ ∃ st' : ScanState, st'.depth = st.depth ∧ CutTo isName st' rest :=
  match h with
  | @Argument.number t _ ht => by
      have hatom : Atom t.kind t.text (.number t.text) := ht ▸ .number
      exact ⟨hatom.form hd hcut, _, by rw [ht]; rfl, hcut.first.2⟩
  | @Argument.string t _ ht => by
      have hatom : Atom t.kind t.text (.string t.text) := ht ▸ .string
      exact ⟨hatom.form hd hcut, _, by rw [ht]; rfl, hcut.first.2⟩
  | @Argument.name t _ ht hn => by
      have hatom : Atom t.kind t.text (.ident t.text) := ht ▸ .name hn
      exact ⟨hatom.form hd hcut, _, by rw [ht]; rfl, hcut.first.2⟩
  | @Argument.word t _ ht hb hn => by
      have hblank : ¬ (Token.mk .text t.text 0).isBlank := by simpa [Token.isBlank, ht] using hb
      have hatom : Atom t.kind t.text (.text t.text) := ht ▸ .word hblank hn
      exact ⟨hatom.form hd hcut, _, by rw [ht]; rfl, hcut.first.2⟩
  | @Argument.callWord t _ ht _ => by
      have hatom : Atom t.kind t.text (.text t.text) := ht ▸ .callWord
      exact ⟨hatom.form hd hcut, _, by rw [ht]; rfl, hcut.first.2⟩
  | .call hc => hc.form hcut
  | @Argument.group o c ws ws' _ _ _ ho hws ha hws' hc => by
      obtain ⟨st₁, hst₁, hcut₁⟩ := hws.cutTo hcut.first.2
      have hopen : (st.after o.kind).depth = st.depth + 1 := by simp [ho, ScanState.after, hd]
      -- the form is that of the argument inside: the parentheses are lost here
      obtain ⟨hform, st₂, hst₂, hcut₂⟩ := ha.form (by omega) hcut₁
      obtain ⟨st₃, hst₃, hcut₃⟩ := hws'.cutTo hcut₂
      refine ⟨hform, _, ?_, hcut₃.first.2⟩
      simp only [hc, ScanState.after]
      omega

lemma Call.form {ts rest : List Token} {e : Node} (h : Call ts e rest) {st : ScanState}
    (hcut : CutTo isName st ts) :
    ArgumentForm isName e ∧ ∃ st' : ScanState, st'.depth = st.depth ∧ CutTo isName st' rest :=
  match h with
  | @Call.empty w o c ws _ hw ho hws hc => by
      obtain ⟨q, htext, hp⟩ := callWord_form hw hcut
      obtain ⟨st', hst', hcut'⟩ := hws.cutTo hcut.first.2.first.2
      rw [htext]
      refine ⟨.call hp (by simp), _, ?_, hcut'.first.2⟩
      simp only [hw, ho, hc, ScanState.after, Bool.or_true, if_true] at hst' ⊢
      omega
  | @Call.arguments w o _ _ _ hw ho has => by
      obtain ⟨q, htext, hp⟩ := callWord_form hw hcut
      have hopen : ((st.after w.kind).after o.kind).depth = st.depth + 1 := by
        simp [hw, ho, ScanState.after]
      obtain ⟨hforms, st', hst', hcut'⟩ := has.form (by omega) hcut.first.2.first.2
      rw [htext]
      exact ⟨.call hp hforms, st', by omega, hcut'⟩

lemma Arguments.form {ts rest : List Token} {es : List Node} (h : Arguments ts es rest)
    {st : ScanState} (hd : st.depth ≠ 0) (hcut : CutTo isName st ts) :
    (∀ e ∈ es, ArgumentForm isName e) ∧ ∃ st' : ScanState, st'.depth + 1 = st.depth ∧
      CutTo isName st' rest :=
  match h with
  | @Arguments.last c ws ws' _ _ _ hws ha hws' hc => by
      obtain ⟨st₁, hst₁, hcut₁⟩ := hws.cutTo hcut
      obtain ⟨hform, st₂, hst₂, hcut₂⟩ := ha.form (by omega) hcut₁
      obtain ⟨st₃, hst₃, hcut₃⟩ := hws'.cutTo hcut₂
      refine ⟨by simpa using hform, _, ?_, hcut₃.first.2⟩
      simp only [hc, ScanState.after]
      omega
  | @Arguments.more c ws ws' _ _ _ _ _ hws ha hws' hc has => by
      obtain ⟨st₁, hst₁, hcut₁⟩ := hws.cutTo hcut
      obtain ⟨hform, st₂, hst₂, hcut₂⟩ := ha.form (by omega) hcut₁
      obtain ⟨st₃, hst₃, hcut₃⟩ := hws'.cutTo hcut₂
      have hcomma : (st₃.after c.kind).depth = st₃.depth := by rw [hc]; rfl
      obtain ⟨hforms, st₄, hst₄, hcut₄⟩ := has.form (by omega) hcut₃.first.2
      exact ⟨List.forall_mem_cons.mpr ⟨hform, hforms⟩, st₄, by omega, hcut₄⟩

end

end Grammar

/-! ### The pieces that an argument is printed as -/

/-- An expression is printed as these pieces: within arguments the scanner cuts them before
everything that is not a part of a word, and they are the expression again. -/
structure PrintsAs (isName : String → Bool) (e : Node) (qs : List Piece) : Prop where
  /-- The pieces spell the printed form. -/
  print (width : Int) : e.print width = .ok (String.ofList (spelling qs))
  /-- The scanner cuts them. -/
  cut (st : ScanState) {rest : List Char} : st.depth ≠ 0 → Apart rest →
    Cut isName st (spelling qs ++ rest) qs rest
  /-- They are the expression. -/
  argument (position : ℕ) {ts : List Token} : ¬ startsOpening ts →
    Grammar.Argument (place position qs ++ ts) e ts

/-- So are the arguments of a call, with a comma and a blank between them. -/
structure ArgumentsPrintAs (isName : String → Bool) (es : List Node) (qs : List Piece) : Prop where
  /-- The pieces spell the printed forms. -/
  print (width : Int) : (Node.printAll width es).map (joinWith ", ") =
    .ok (String.ofList (spelling qs))
  /-- The scanner cuts them. -/
  cut (st : ScanState) {rest : List Char} : st.depth ≠ 0 → Apart rest →
    Cut isName st (spelling qs ++ rest) qs rest
  /-- They are the arguments. -/
  arguments (position : ℕ) {c : Token} (ts : List Token) : c.kind = .closing →
    Grammar.Arguments (place position qs ++ c :: ts) es ts

/-- A call is printed as pieces that the scanner cuts everywhere. -/
structure CallPrintsAs (isName : String → Bool) (e : Node) (qs : List Piece) : Prop where
  /-- The pieces spell the printed form. -/
  print (width : Int) : e.print width = .ok (String.ofList (spelling qs))
  /-- The scanner cuts them. -/
  cut (st : ScanState) (rest : List Char) : Cut isName st (spelling qs ++ rest) qs rest
  /-- They are the call. -/
  call (position : ℕ) (ts : List Token) : Grammar.Call (place position qs ++ ts) e ts

lemma CallPrintsAs.printsAs {e : Node} {qs : List Piece} (h : CallPrintsAs isName e qs) :
    PrintsAs isName e qs where
  print := h.print
  cut st _ _ _ := h.cut st _
  argument position _ _ := .call (h.call position _)

/-- A printed argument leaves the scanner at the depth at which it began. -/
lemma PrintsAs.depth {e : Node} {qs : List Piece} (h : PrintsAs isName e qs) {st : ScanState}
    (hd : st.depth ≠ 0) : (st.afterAll (qs.map Prod.fst)).depth = st.depth := by
  have hargument := h.argument 0 (show ¬ startsOpening [] by simp [startsOpening])
  obtain ⟨st', hst', hrun⟩ := hargument.balanced st (Nat.pos_of_ne_zero hd)
  rw [List.append_nil, place_kinds] at hrun
  rwa [hrun]

namespace Grammar

lemma Atom.print {kind : TokenKind} {s : String} {e : Node} (h : Atom kind s e) (width : Int) :
    e.print width = .ok s := by
  cases h <;> rfl

lemma Atom.argument {kind : TokenKind} {s : String} {e : Node} (h : Atom kind s e)
    (position : ℕ) {ts : List Token} (hts : ¬ startsOpening ts) :
    Argument (⟨kind, s, position⟩ :: ts) e ts := by
  cases h with
  | number => exact @Argument.number ⟨.number, s, position⟩ ts rfl
  | string => exact @Argument.string ⟨.string, s, position⟩ ts rfl
  | name hn => exact @Argument.name ⟨.text, s, position⟩ ts rfl hn
  | word hb hn => exact @Argument.word ⟨.text, s, position⟩ ts rfl hb hn
  | callWord => exact @Argument.callWord ⟨.call, s, position⟩ ts rfl hts

/-- Blanks before arguments mean nothing. -/
lemma Arguments.after_blanks {ws ts rest : List Token} {es : List Node}
    (h : Arguments ts es rest) (hws : Blanks ws) : Arguments (ws ++ ts) es rest := by
  have hblanks {ws' : List Token} (hws' : Blanks ws') : Blanks (ws ++ ws') := by
    intro t ht
    exact (List.mem_append.mp ht).elim (hws t) (hws' t)
  cases h with
  | last hws' ha hws'' hc =>
      rw [← List.append_assoc]
      exact .last (hblanks hws') ha hws'' hc
  | more hws' ha hws'' hc has =>
      rw [← List.append_assoc]
      exact .more (hblanks hws') ha hws'' hc has

end Grammar

lemma printsAs_atom {kind : TokenKind} {c : Char} {q : List Char} {e : Node}
    (hp : pieceAt? isName 1 c q = some (kind, c :: q))
    (h : Grammar.Atom kind (String.ofList (c :: q)) e) :
    PrintsAs isName e [(kind, c :: q)] where
  print width := by simpa using h.print width
  cut st rest hd hrest := by
    have hdepth : 1 = 0 ↔ st.depth = 0 := by simpa using hd
    rw [pieceAt?_depth fun _ => hdepth, ← pieceAt?_append_iff hrest (by simp)] at hp
    simpa using Cut.piece hp rfl .done
  argument position ts hts := h.argument position hts

/-- The comma and the blank between two arguments. -/
def separatorPieces : List Piece := [(.comma, [',']), (.text, [' '])]

lemma blanks_nil : Grammar.Blanks [] := by simp [Grammar.Blanks]

/-- One argument is printed by itself. -/
lemma PrintsAs.single {e : Node} {qs : List Piece} (h : PrintsAs isName e qs) :
    ArgumentsPrintAs isName [e] qs where
  print width := by
    rw [Node.printAll, h.print]
    exact congrArg Except.ok String.intercalate_singleton
  cut := h.cut
  arguments position c ts hc := by
    have hend : ¬ startsOpening (c :: ts) := by simp [startsOpening, hc]
    exact @Grammar.Arguments.last c [] [] _ _ _ blanks_nil (h.argument position hend) blanks_nil hc

/-- Another argument is printed before arguments. -/
lemma PrintsAs.cons {e : Node} {es : List Node} {qs rs : List Piece} (h : PrintsAs isName e qs)
    (hes : ArgumentsPrintAs isName es rs) (hne : es ≠ []) :
    ArgumentsPrintAs isName (e :: es) (qs ++ (separatorPieces ++ rs)) where
  print width := by
    obtain ⟨parts, hparts, hjoin⟩ := except_map_eq_ok.mp (hes.print width)
    obtain ⟨part, parts, rfl⟩ : ∃ part parts', parts = part :: parts' := by
      obtain ⟨e', es, rfl⟩ := List.exists_cons_of_ne_nil hne
      rw [Node.printAll, except_bind_eq_ok] at hparts
      obtain ⟨part, -, hparts⟩ := hparts
      obtain ⟨parts', -, heq⟩ := except_bind_eq_ok.mp hparts
      exact ⟨part, parts', (Except.ok.inj heq).symm⟩
    have hcons : joinWith ", " (String.ofList (spelling qs) :: part :: parts) =
        String.ofList (spelling qs) ++ ", " ++ joinWith ", " (part :: parts) :=
      String.intercalate_cons_cons
    rw [Node.printAll, h.print, hparts]
    refine congrArg Except.ok (hcons.trans ?_)
    simp [hjoin, separatorPieces, ← String.toList_inj]
  cut st rest hd hrest := by
    have hcomma : ¬ isWordChar ',' := by decide
    -- a comma stands in no word, so the argument before it is cut as it is alone
    have hqs := h.cut st hd (apart_mark hcomma (' ' :: (spelling rs ++ rest)))
    have hdepth := h.depth hd
    have hrs := hes.cut (((st.afterAll (qs.map Prod.fst)).after .comma).after .text)
      (ne_of_eq_of_ne hdepth hd) hrest
    simpa [separatorPieces] using hqs.append (.piece rfl rfl (.piece rfl rfl hrs))
  arguments position c ts hc := by
    set comma : Token := ⟨.comma, ",", position + (spelling qs).length⟩
    set blank : Token := ⟨.text, " ", position + (spelling qs).length + 1⟩
    have hblank : Grammar.Blanks [blank] := by simp [Grammar.Blanks, blank, Token.isBlank]
    have hes' := (hes.arguments (position + (spelling qs).length + 1 + 1) ts hc).after_blanks hblank
    have he (us : List Token) :
        Grammar.Argument (place position qs ++ comma :: us) e (comma :: us) :=
      h.argument position (by simp [startsOpening, comma])
    simpa [separatorPieces, place] using
      @Grammar.Arguments.more _ [] [] _ _ _ _ _ blanks_nil (he _) blanks_nil rfl hes'

/-- Arguments that are printed one by one are printed together. -/
lemma exists_argumentsPrintAs {es : List Node} (hne : es ≠ [])
    (h : ∀ e ∈ es, ∃ qs, PrintsAs isName e qs) : ∃ qs, ArgumentsPrintAs isName es qs := by
  induction es with
  | nil => exact absurd rfl hne
  | cons e es ih =>
      obtain ⟨⟨qs, he⟩, hes⟩ := List.forall_mem_cons.mp h
      by_cases hnil : es = []
      · subst hnil
        exact ⟨qs, he.single⟩
      · obtain ⟨rs, hrs⟩ := ih hnil hes
        exact ⟨_, he.cons hrs hnil⟩

lemma print_call {name inner : String} {w : List Char} {args : List Node} {width : Int}
    (hw : w ≠ []) (h : (Node.printAll width args).map (joinWith ", ") = .ok inner) :
    (Node.call name (String.ofList w) args).print width =
      .ok (String.ofList w ++ "(" ++ inner ++ ")") := by
  obtain ⟨parts, hparts, rfl⟩ := except_map_eq_ok.mp h
  have hsource : ¬ (String.ofList w).isEmpty := by
    simpa [String.isEmpty_iff, String.ofList_eq_empty_iff] using hw
  rw [Node.print, hparts, if_neg hsource]
  rfl

/-- A call word before a parenthesis is cut off at any depth. -/
lemma cut_callWord {q : List Char} (hq : pieceAt? isName 0 sigil q = some (.call, sigil :: q))
    {st : ScanState} {s rest : List Char} {ps : List Piece}
    (h : Cut isName ⟨st.depth + 1, false⟩ s ps rest) :
    Cut isName st (sigil :: (q ++ '(' :: s)) ((.call, sigil :: q) :: (.opening, ['(']) :: ps)
      rest := by
  have hopen : ¬ isWordChar '(' := by decide
  have hquote : sigil ≠ '\'' := by decide
  rw [← pieceAt?_append_iff (apart_mark hopen s) (by simp),
    @pieceAt?_depth _ _ st.depth _ fun h => absurd h hquote] at hq
  have hstate : ((st.after .call).after .opening) = ⟨st.depth + 1, false⟩ := by
    simp [ScanState.after]
  rw [← hstate] at h
  exact .piece hq rfl (.piece rfl rfl h)

lemma exists_callPrintsAs {q : List Char} {args : List Node}
    (hq : pieceAt? isName 0 sigil q = some (.call, sigil :: q))
    (h : ∀ e ∈ args, ∃ qs, PrintsAs isName e qs) :
    ∃ qs, CallPrintsAs isName (.call (calledName (String.ofList (sigil :: q)))
      (String.ofList (sigil :: q)) args) ((.call, sigil :: q) :: qs) := by
  by_cases hargs : args = []
  · subst hargs
    refine ⟨[(.opening, ['(']), (.closing, [')'])], fun width => ?_, fun st rest => ?_,
      fun position ts => ?_⟩
    · rw [print_call (by simp) rfl]
      simp [← String.toList_inj, joinWith]
    · simpa using cut_callWord hq (.piece rfl rfl .done)
    · exact @Grammar.Call.empty ⟨_, _, _⟩ ⟨_, _, _⟩ _ [] ts rfl rfl blanks_nil rfl
  · obtain ⟨qs, hqs⟩ := exists_argumentsPrintAs hargs h
    refine ⟨(.opening, ['(']) :: (qs ++ [(.closing, [')'])]), fun width => ?_, fun st rest => ?_,
      fun position ts => ?_⟩
    · rw [print_call (by simp) (hqs.print width)]
      simp [← String.toList_inj]
    · have hclose : ¬ isWordChar ')' := by decide
      have hcut := hqs.cut ⟨st.depth + 1, false⟩ (by simp) (apart_mark hclose rest)
      simpa using cut_callWord hq (hcut.append (.piece rfl rfl .done))
    · simpa [place] using @Grammar.Call.arguments ⟨_, _, _⟩ ⟨_, _, _⟩ _ _ _ rfl rfl
        (hqs.arguments _ ts rfl)

/-- Every argument is printed as pieces that are the argument again. -/
lemma ArgumentForm.printsAs {e : Node} (h : ArgumentForm isName e) :
    ∃ qs, PrintsAs isName e qs := by
  induction h with
  | atom hp h => exact ⟨_, printsAs_atom hp h⟩
  | call hq _ ih =>
      obtain ⟨qs, hqs⟩ := exists_callPrintsAs hq ih
      exact ⟨_, hqs.printsAs⟩

/-! ### Calls and literal text side by side -/

lemma printNodes_cons {e : Node} {es : List Node} {s : String} :
    Node.printNodes (e :: es) = .ok s ↔
      ∃ part rest, e.print defaultWidth = .ok part ∧ Node.printNodes es = .ok rest ∧
        s = part ++ rest := by
  have hjoin (part : String) (parts : List String) :
      joinWith "" (part :: parts) = part ++ joinWith "" parts := by
    cases parts <;> simp [joinWith, String.intercalate_cons_cons]
  simp only [Node.printNodes, except_map_eq_ok, Node.printAll, except_bind_eq_ok, pure,
    Except.pure, Except.ok.injEq]
  constructor
  · rintro ⟨_, ⟨part, hpart, parts, hparts, rfl⟩, rfl⟩
    exact ⟨part, _, hpart, ⟨parts, hparts, rfl⟩, hjoin part parts⟩
  · rintro ⟨part, _, hpart, ⟨parts, hparts, rfl⟩, rfl⟩
    exact ⟨_, ⟨part, hpart, parts, hparts, rfl⟩, hjoin part parts⟩

/-- A call is printed as pieces that begin with its call word. -/
lemma CallAlone.print {cs : List Char} {ps : List Piece} {e : Node}
    (h : CallAlone isName cs ps e) :
    (∃ s, cs = sigil :: s) ∧ ∃ q qs, CallPrintsAs isName e ((.call, sigil :: q) :: qs) := by
  obtain ⟨hcut, hc⟩ := h
  obtain ⟨_, w, args, ts, he, hts, hw⟩ := hc.source
  obtain ⟨c, q, mid, _, -, rfl, hp, -⟩ := hcut.first hts
  obtain ⟨_, hword⟩ := sigil_of_isCallWord (pieceAt?_form (hw ▸ hp)).call_word.1
  obtain ⟨rfl, -⟩ := List.cons.inj hword
  refine ⟨⟨_, rfl⟩, ?_⟩
  obtain ⟨hform, -⟩ := hc.form ⟨0, _, _, hcut, rfl⟩
  cases hform with
  | atom _ hatom =>
      subst he
      cases hatom
  | call hq hargs =>
      obtain ⟨qs, hqs⟩ := exists_callPrintsAs hq fun e he => (hargs e he).printsAs
      exact ⟨_, qs, hqs⟩

/-- The text `cs'` begins with the literal text with which `cs` begins, and is cut into the pieces
`ps'`; a parenthesis opens at its start only if one does at the start of the tokens `ts`. -/
structure Respelled (isName : String → Bool) (st : ScanState) (cs : List Char) (ts : List Token)
    (cs' : List Char) (ps' : List Piece) : Prop where
  /-- What follows the literal text is apart from it. -/
  start : ∃ literal more more', cs = literal ++ more ∧ cs' = literal ++ more' ∧ Apart more ∧
    Apart more'
  /-- The scanner cuts the pieces. -/
  cut : Cut isName st cs' ps' []
  /-- A parenthesis that opens was there before. -/
  opening (position : ℕ) : startsOpening (place position ps') → startsOpening ts

section

variable {st : ScanState} {mid cs' : List Char} {ps' : List Piece} {rest : List Token}

/-- A literal piece is the same piece before a text that begins the same way. -/
lemma Respelled.literal {c : Char} {q : List Char} {t : Token}
    (hp : pieceAt? isName st.depth c (q ++ mid) = some (t.kind, c :: q))
    (h : Respelled isName (st.after t.kind) mid rest cs' ps') :
    Respelled isName st (c :: (q ++ mid)) (t :: rest) (c :: (q ++ cs'))
      ((t.kind, c :: q) :: ps') := by
  obtain ⟨⟨literal, more, more', rfl, rfl, hmore, hmore'⟩, hcut, -⟩ := h
  refine ⟨⟨c :: (q ++ literal), more, more', by simp, by simp, hmore, hmore'⟩, .piece ?_ rfl hcut,
    fun position hopen => hopen⟩
  -- the piece ends within the literal text, and what follows that text cannot prolong it
  have hlen : (c :: q).length ≤ (q ++ literal).length + 1 := by simp
  rw [← List.append_assoc] at hp ⊢
  rwa [pieceAt?_append_iff hmore hlen, ← pieceAt?_append_iff hmore' hlen] at hp

/-- A call in its printed form stands in the place of a call. -/
lemma Respelled.call {e : Node} {s q : List Char} {qs : List Piece} {ts : List Token}
    (hcall : CallPrintsAs isName e ((.call, sigil :: q) :: qs)) (hd : st.depth = 0)
    (h : Respelled isName ⟨0, false⟩ mid rest cs' ps') :
    Respelled isName st (sigil :: s) ts (spelling ((.call, sigil :: q) :: qs) ++ cs')
      ((.call, sigil :: q) :: qs ++ ps') := by
  have hsigil : ¬ isWordChar sigil := by decide
  have hafter : st.afterAll (((.call, sigil :: q) :: qs : List Piece).map Prod.fst) =
      ⟨0, false⟩ := by
    have hbalanced := (hcall.call 0 []).balanced st
    rw [List.append_nil, place_kinds, hd] at hbalanced
    exact hbalanced
  exact ⟨⟨[], _, _, rfl, rfl, apart_mark hsigil s, apart_mark hsigil _⟩,
    (hcall.cut st cs').append (hafter ▸ h.cut), by simp [place, startsOpening]⟩

end

/-- The invariant is that the scanner stands outside of arguments at the start of every expression,
and has not just read a call word if a parenthesis opens. -/
lemma exists_respelled {ts : List Token} {es : List Node} (hp : Grammar.Program ts es)
    {position : ℕ} {st : ScanState} {cs : List Char} {ps : List Piece} (hd : st.depth = 0)
    (ha : st.afterCall → ¬ startsOpening ts) (hcut : Cut isName st cs ps [])
    (hts : place position ps = ts) :
    ∃ cs' ps', Respelled isName st cs ts cs' ps' ∧
      Node.printNodes es = .ok (String.ofList cs') ∧
      ∀ position', Grammar.Program (place position' ps') es := by
  have hspell (c : Char) (q s : List Char) :
      String.ofList (c :: (q ++ s)) = String.ofList (c :: q) ++ String.ofList s :=
    @String.ofList_append (c :: q) s
  induction hp generalizing position st cs ps with
  | done =>
      cases hcut with
      | done =>
          have hnil : Apart [] := by simp [Apart]
          exact ⟨[], [], ⟨⟨[], [], [], rfl, rfl, hnil, hnil⟩, .done, fun _ h => h⟩, rfl,
            fun _ => .done⟩
      | piece => simp [place] at hts
  | call hc _ ih =>
      subst hts
      obtain ⟨qs, rs, mid, rfl, rfl, halone, hmid, hrs⟩ := callAlone_of_call hd hcut hc
      obtain ⟨cs', ps', hre, hprint, hprogram⟩ := ih rfl (by simp) hmid hrs.symm
      obtain ⟨⟨s, hs⟩, q, us, hcall⟩ := halone.print
      rw [hs, List.cons_append]
      refine ⟨_, _, hre.call hcall hd, ?_, fun position' => ?_⟩
      · exact printNodes_cons.mpr ⟨_, _, hcall.print _, hprint, String.ofList_append⟩
      · rw [place_append]
        exact .call (hcall.call _ _) (hprogram _)
  | @number t rest es hkind _ ih =>
      obtain ⟨c, q, mid, rs, ht, rfl, hpiece, hmid, hrest⟩ := hcut.first hts
      obtain ⟨hd', ha'⟩ := after_literal hd ha (by simp [hkind])
      obtain ⟨cs', ps', hre, hprint, hprogram⟩ := ih hd' ha' hmid hrest
      refine ⟨_, _, hre.literal hpiece, ?_, fun position' => ?_⟩
      · exact printNodes_cons.mpr ⟨_, _, rfl, hprint, ht ▸ hspell c q cs'⟩
      · rw [ht]
        exact @Grammar.Program.number ⟨_, _, _⟩ _ _ hkind (hprogram _)
  | @text t rest es hkind hcall _ hes ih =>
      obtain ⟨c, q, mid, rs, ht, rfl, hpiece, hmid, hrest⟩ := hcut.first hts
      obtain ⟨hd', ha'⟩ := after_literal hd ha hcall
      obtain ⟨cs', ps', hre, hprint, hprogram⟩ := ih hd' ha' hmid hrest
      refine ⟨_, _, hre.literal hpiece, ?_, fun position' => ?_⟩
      · exact printNodes_cons.mpr ⟨_, _, rfl, hprint, ht ▸ hspell c q cs'⟩
      · rw [ht]
        exact @Grammar.Program.text ⟨_, _, _⟩ _ _ hkind
          (fun h => hcall ⟨h.1, hre.opening _ h.2⟩) (hprogram _) hes
  | @joined t rest s es hkind hcall _ ih =>
      obtain ⟨c, q, mid, rs, ht, rfl, hpiece, hmid, hrest⟩ := hcut.first hts
      obtain ⟨hd', ha'⟩ := after_literal hd ha hcall
      obtain ⟨cs', ps', hre, hprint, hprogram⟩ := ih hd' ha' hmid hrest
      refine ⟨_, _, hre.literal hpiece, ?_, fun position' => ?_⟩
      · -- the text that is joined to the next one is printed before it
        obtain ⟨_, rest', hs, hrest', happend⟩ := printNodes_cons.mp hprint
        obtain rfl := Except.ok.inj hs
        refine printNodes_cons.mpr ⟨_, rest', rfl, hrest', ?_⟩
        rw [String.append_assoc, ← happend, ht]
        exact hspell c q cs'
      · rw [ht]
        exact @Grammar.Program.joined ⟨_, _, _⟩ _ _ _ hkind
          (fun h => hcall ⟨h.1, hre.opening _ h.2⟩) (hprogram _)

lemma Parses.unique {text : String} {es es' : List Node} (h : Parses isName text es)
    (h' : Parses isName text es') : es' = es := by
  obtain ⟨tokens, ht, hp⟩ := h
  obtain ⟨_, ht', hp'⟩ := h'
  obtain rfl := Except.ok.inj (ht'.symm.trans ht)
  exact Except.ok.inj (Option.some.inj (hp'.symm.trans hp))

/-- **Expressions that are printed are read back.**  Whatever names are registered, the expressions
of a text have a printed form, which is cut and parsed to these expressions and no others; printed
again they have the same form. -/
theorem parses_printed {text : String} {es : List Node} (h : Parses isName text es) :
    ∃ printed, Node.printNodes es = .ok printed ∧ Parses isName printed es ∧
      ∀ es', Parses isName printed es' → es' = es ∧ Node.printNodes es' = .ok printed := by
  obtain ⟨ps, hcut, hp⟩ := parses_iff.mp h
  obtain ⟨cs', ps', hre, hprint, hprogram⟩ := exists_respelled hp rfl (by simp) hcut rfl
  have hread : Parses isName (String.ofList cs') es :=
    parses_iff.mpr ⟨ps', by simpa using hre.cut, hprogram 0⟩
  refine ⟨_, hprint, hread, fun es' h' => ?_⟩
  obtain rfl := hread.unique h'
  exact ⟨rfl, hprint⟩

/-- Parentheses around an argument, blanks and the letter case of a call word: only the first two
are lost. -/
theorem parses_printed_group :
    ∃ es, Parses (· == "f") "a,@f(((b+)) ,'it\\'s',\t@g, @F( ))(" es ∧
      Parses (· == "f") "a,@f(b+, 'it\\'s', @g, @F())(" es := by
  have hrun : (tokenize (· == "f") "a,@f(((b+)) ,'it\\'s',\t@g, @F( ))(").map parse? = .ok (some
      (.ok [.text "a,", .call "f" "@f" [.text "b+", .string "'it\\'s'", .text "@g",
        .call "f" "@F" []], .text "("])) := by
    cbv
  have hparse := except_map_eq_ok.mp hrun
  obtain ⟨printed, hprint, hread, -⟩ := parses_printed hparse
  have hprinted : printed = "a,@f(b+, 'it\\'s', @g, @F())(" :=
    Except.ok.inj (hprint.symm.trans (by cbv))
  exact ⟨_, hparse, hprinted ▸ hread⟩

end Sigil
