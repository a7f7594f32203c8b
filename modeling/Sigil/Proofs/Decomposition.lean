/-
# The spans of expressions

A text that is cut and parsed falls into spans, one for each expression at the top level.  The
scanner counts open parentheses while it cuts; the parser matches parentheses on the tokens.  The
two keep step: at the start of every expression at the top level the scanner is outside of
arguments, and within the arguments of a call both have the same parentheses open.  Hence the span
of a call means the same by itself as within the text.
-/
import Sigil.Proofs.Parsing
import Sigil.Proofs.Scanning

namespace Sigil

/-- The text is cut and parsed to these expressions. -/
def Parses (isName : String → Bool) (text : String) (es : List Node) : Prop :=
  ∃ tokens, tokenize isName text = .ok tokens ∧ parse? tokens = some (.ok es)

variable {isName : String → Bool}

/-- A text is parsed to the expressions that the grammar derives from its pieces. -/
lemma parses_iff {text : String} {es : List Node} :
    Parses isName text es ↔
      ∃ ps, Cut isName ⟨0, false⟩ text.toList ps [] ∧ Grammar.Program (place 0 ps) es := by
  constructor
  · rintro ⟨tokens, ht, hp⟩
    obtain ⟨ps, hcut, rfl⟩ := tokenize_eq_ok_iff.mp ht
    rw [Grammar.parse?_append rfl hcut.kind_ne_ending, Option.some.injEq] at hp
    exact ⟨ps, hcut, Grammar.parseBody_eq_ok_iff.mp hp⟩
  · rintro ⟨ps, hcut, hp⟩
    refine ⟨_, tokenize_eq_ok_iff.mpr ⟨ps, hcut, rfl⟩, ?_⟩
    rw [Grammar.parse?_append rfl hcut.kind_ne_ending, Grammar.parseBody_eq_ok_iff.mpr hp]

/-! ### Scanner and parser keep step -/

namespace Grammar

lemma depth_blanks {ws : List Token} (hws : Blanks ws) (st : ScanState) :
    (st.afterAll (ws.map Token.kind)).depth = st.depth := by
  induction ws generalizing st with
  | nil => rfl
  | cons w ws ih =>
      have hw : w.kind = .text := kind_of_isBlank (hws w (by simp))
      rw [List.map_cons, afterAll_cons, ih fun t ht => hws t (by simp [ht]), hw]
      rfl

mutual

/-- Within arguments, an argument leaves as many parentheses open as it finds. -/
lemma Argument.balanced {ts rest : List Token} {e : Node} (h : Argument ts e rest) (st : ScanState)
    (hd : 0 < st.depth) : ∃ st' : ScanState, st'.depth = st.depth ∧
      st.afterAll (ts.map Token.kind) = st'.afterAll (rest.map Token.kind) :=
  match h with
  | .number ht => ⟨st.after .number, rfl, by simp [ht]⟩
  | .string ht => ⟨st.after .string, rfl, by simp [ht]⟩
  | .name ht _ => ⟨st.after .text, rfl, by simp [ht]⟩
  | .word ht _ _ => ⟨st.after .text, rfl, by simp [ht]⟩
  | .callWord ht _ => ⟨st.after .call, rfl, by simp [ht]⟩
  | .call hc => ⟨⟨st.depth, false⟩, rfl, hc.balanced st⟩
  | @Argument.group o c ws ws' ts rest _ ho hws ha hws' hc => by
      have hopen : (st.after .opening).depth = st.depth + 1 := by
        simp [ScanState.after, Nat.ne_of_gt hd]
      have hblank := depth_blanks hws (st.after .opening)
      obtain ⟨st', hst', hrun⟩ := ha.balanced ((st.after .opening).afterAll (ws.map Token.kind))
        (by omega)
      have hblank' := depth_blanks hws' st'
      refine ⟨(st'.afterAll (ws'.map Token.kind)).after .closing, ?_, ?_⟩
      · simp only [ScanState.after]
        omega
      · simp [ho, hrun, hc]

/-- A call closes all parentheses that it opens. -/
lemma Call.balanced {ts rest : List Token} {e : Node} (h : Call ts e rest) (st : ScanState) :
    st.afterAll (ts.map Token.kind) =
      (⟨st.depth, false⟩ : ScanState).afterAll (rest.map Token.kind) :=
  match h with
  | @Call.empty w o c ws _ hw ho hws hc => by
      have hblank := depth_blanks hws ⟨st.depth + 1, false⟩
      simp [hw, ho, hc, ScanState.after, hblank]
  | @Call.arguments w o _ _ _ hw ho has => by
      -- right after a call word a parenthesis opens arguments, outside of arguments as well
      have hopen : ((st.after .call).after .opening) = ⟨st.depth + 1, false⟩ := by
        simp [ScanState.after]
      simpa [hw, ho, hopen] using has.balanced ⟨st.depth + 1, false⟩ (Nat.succ_pos _)

/-- A list of arguments closes one parenthesis more than it opens. -/
lemma Arguments.balanced {ts rest : List Token} {es : List Node} (h : Arguments ts es rest)
    (st : ScanState) (hd : 0 < st.depth) :
    st.afterAll (ts.map Token.kind) =
      (⟨st.depth - 1, false⟩ : ScanState).afterAll (rest.map Token.kind) :=
  match h with
  | @Arguments.last c ws ws' _ rest _ hws ha hws' hc => by
      have hblank := depth_blanks hws st
      obtain ⟨st', hst', hrun⟩ := ha.balanced (st.afterAll (ws.map Token.kind)) (by omega)
      have hblank' := depth_blanks hws' st'
      have hclose : (st'.afterAll (ws'.map Token.kind)).after .closing = ⟨st.depth - 1, false⟩ := by
        simp only [ScanState.after, ScanState.mk.injEq, and_true]
        omega
      simp [hrun, hc, hclose]
  | @Arguments.more c ws ws' _ _ _ _ _ hws ha hws' hc has => by
      have hblank := depth_blanks hws st
      obtain ⟨st', hst', hrun⟩ := ha.balanced (st.afterAll (ws.map Token.kind)) (by omega)
      have hblank' := depth_blanks hws' st'
      have hdepth : ((st'.afterAll (ws'.map Token.kind)).after .comma).depth = st.depth := by
        simp only [ScanState.after]
        omega
      have hmore := has.balanced ((st'.afterAll (ws'.map Token.kind)).after .comma) (by omega)
      simp [hrun, hc, hmore, hdepth]

end

/-- Calls at the top level need no other derivation than that of the call. -/
lemma Program.call_inv {ts : List Token} {name source : String} {args es : List Node}
    (h : Program ts (.call name source args :: es)) :
    ∃ rest, Call ts (.call name source args) rest ∧ Program rest es := by
  cases h with
  | call hc hp => exact ⟨_, hc, hp⟩

lemma Program.nil_inv {ts : List Token} (h : Program ts []) : ts = [] := by
  cases h with
  | done => rfl

/-- No two texts of a program are adjacent. -/
lemma Program.isChain {ts : List Token} {es : List Node} (h : Program ts es) :
    es.IsChain fun e e' => ¬ (e.isText ∧ e'.isText) := by
  induction h with
  | done => exact .nil
  | call hc _ ih =>
      obtain ⟨_, _, _, _, rfl, -, -⟩ := hc.source
      exact List.isChain_cons.mpr ⟨by simp [Node.isText], ih⟩
  | number _ _ ih => exact List.isChain_cons.mpr ⟨by simp [Node.isText], ih⟩
  | text _ _ _ hes ih => exact List.isChain_cons.mpr ⟨fun e he h => hes e he h.2, ih⟩
  | joined _ _ _ ih =>
      rw [List.isChain_cons] at ih ⊢
      exact ⟨fun e he h => ih.1 e he ⟨rfl, h.2⟩, ih.2⟩

end Grammar

/-! ### Calls that stand alone -/

/-- The characters are those of one call. -/
def CallAlone (isName : String → Bool) (cs : List Char) (ps : List Piece) (e : Node) : Prop :=
  Cut isName ⟨0, false⟩ cs ps [] ∧ Grammar.Call (place 0 ps) e []

lemma parses_call_iff {text : String} {name source : String} {args : List Node} :
    Parses isName text [.call name source args] ↔
      ∃ ps, CallAlone isName text.toList ps (.call name source args) := by
  rw [parses_iff]
  constructor
  · rintro ⟨ps, hcut, hp⟩
    obtain ⟨rest, hc, hrest⟩ := hp.call_inv
    obtain rfl := hrest.nil_inv
    exact ⟨ps, hcut, hc⟩
  · rintro ⟨ps, hcut, hc⟩
    exact ⟨ps, hcut, .call hc .done⟩

/-- The pieces of a call begin with its call word and end with a parenthesis. -/
lemma call_ends {position : ℕ} {st : ScanState} {cs mid : List Char} {ps : List Piece} {e : Node}
    (hcut : Cut isName st cs ps mid) (hc : Grammar.Call (place position ps) e []) :
    ∃ name w args qs rs, e = .call name (String.ofList w) args ∧ ps = (.call, w) :: qs ∧
      ps = rs ++ [(.closing, [')'])] := by
  obtain ⟨name, t, args, ts, rfl, hts, ht⟩ := hc.source
  obtain ⟨kind, w, qs, hps, rfl, -⟩ := place_eq_cons hts
  obtain rfl : kind = .call := ht
  obtain ⟨seg, c, hclose, hseg, -⟩ := hc.frame
  obtain ⟨rs, last, rfl, -, hlast⟩ := place_eq_append hseg
  obtain ⟨kind, p, us, rfl, rfl, hus⟩ := place_eq_cons hlast.symm
  obtain rfl : us = [] := by
    cases us with
    | nil => rfl
    | cons u us => simp [place] at hus
  obtain rfl : kind = .closing := hclose
  obtain rfl := hcut.closing_text (p := p) (by simp)
  exact ⟨name, w, args, qs, rs, rfl, hps, rfl⟩

/-- The pieces of a call are the same whatever follows it, and after it the scanner stands where it
stood before. -/
lemma CallAlone.cut_append {cs : List Char} {ps : List Piece} {e : Node}
    (h : CallAlone isName cs ps e) (rest : List Char) :
    Cut isName ⟨0, false⟩ (cs ++ rest) ps rest := by
  obtain ⟨_, _, _, _, rs, -, -, rfl⟩ := call_ends h.1 h.2
  have hspell := h.1.spelling_append
  rw [List.append_nil] at hspell
  rw [hspell]
  exact h.1.relocate rest

lemma CallAlone.afterAll {cs : List Char} {ps : List Piece} {e : Node}
    (h : CallAlone isName cs ps e) :
    (⟨0, false⟩ : ScanState).afterAll (ps.map Prod.fst) = ⟨0, false⟩ := by
  have hbalanced := h.2.balanced ⟨0, false⟩
  rwa [place_kinds] at hbalanced

/-- Pieces that make a call make it wherever they stand. -/
lemma call_elsewhere {position : ℕ} {ps : List Piece} {e : Node}
    (h : Grammar.Call (place position ps) e []) (position' : ℕ) :
    Grammar.Call (place position' ps) e [] := by
  have hkeeps : Grammar.KeepsText
      fun t => { t with position := t.position - position + position' } := fun _ => ⟨rfl, rfl⟩
  rw [place_eq_map position position']
  exact h.map hkeeps

/-- A call at the start of tokens makes a call alone of its pieces. -/
lemma callAlone_of_call {position : ℕ} {st : ScanState} {cs : List Char} {ps : List Piece}
    {rest : List Token} {e : Node} (hd : st.depth = 0) (hcut : Cut isName st cs ps [])
    (hc : Grammar.Call (place position ps) e rest) :
    ∃ qs rs mid, ps = qs ++ rs ∧ cs = spelling qs ++ mid ∧
      CallAlone isName (spelling qs) qs e ∧ Cut isName ⟨0, false⟩ mid rs [] ∧
      rest = place (position + (spelling qs).length) rs := by
  obtain ⟨seg, c, hclose, hseg, hframe⟩ := hc.frame
  have hassoc : seg ++ c :: rest = (seg ++ [c]) ++ rest := by simp
  obtain ⟨qs, rs, rfl, hqs, hrs⟩ := place_eq_append (hseg.trans hassoc)
  have hcall : Grammar.Call (place position qs) e [] := by
    rw [← hqs]
    exact hframe []
  obtain ⟨mid, hmid, hrest⟩ := hcut.split
  have hbalanced := hcall.balanced st
  rw [place_kinds, hd] at hbalanced
  rw [hbalanced] at hrest
  refine ⟨qs, rs, mid, rfl, hmid.spelling_append, ⟨?_, call_elsewhere hcall 0⟩, hrest, hrs⟩
  -- alone, the call is cut the same way, since it ends with a parenthesis
  obtain ⟨_, w, _, vs, us, -, hvs, hus⟩ := call_ends hmid hcall
  rw [hus] at hmid
  have hcut' := hmid.relocate []
  rw [← hus, List.append_nil, hvs] at hcut'
  rw [hvs]
  exact hcut'.restart hd

/-! ### Spans -/

/-- What an expression at the top level says about its span. -/
def SpanOf (isName : String → Bool) : Node → String → Prop
  | .text s, span => s = span
  | .number s, span => s = span
  | .call name source args, span => source.toList <+: span.toList ∧ [')'] <:+ span.toList ∧
      Parses isName span [.call name source args]
  | _, _ => False

lemma CallAlone.spanOf {cs : List Char} {ps : List Piece} {e : Node}
    (h : CallAlone isName cs ps e) :
    String.ofList cs ≠ "" ∧ SpanOf isName e (String.ofList cs) := by
  obtain ⟨name, w, args, qs, rs, rfl, hqs, hrs⟩ := call_ends h.1 h.2
  have hspell : cs = spelling ps := by simpa using h.1.spelling_append
  have hclose : [')'] <:+ cs := ⟨spelling rs, by simp [hspell, hrs]⟩
  refine ⟨fun hnil => ?_, ?_, ?_, ?_⟩
  · rw [String.ofList_eq_empty_iff] at hnil
    simp [hnil] at hclose
  · exact ⟨spelling qs, by simp [hspell, hqs]⟩
  · simpa using hclose
  · exact parses_call_iff.mpr ⟨ps, by simpa using h⟩

/-- A literal token at the top level leaves the scanner outside of arguments. -/
lemma after_literal {st : ScanState} {t : Token} {rest : List Token} (hd : st.depth = 0)
    (ha : st.afterCall → ¬ startsOpening (t :: rest))
    (hcall : ¬ (t.kind = .call ∧ startsOpening rest)) :
    (st.after t.kind).depth = 0 ∧ ((st.after t.kind).afterCall → ¬ startsOpening rest) := by
  obtain ⟨kind, text, position⟩ := t
  constructor
  · cases kind with
    | opening =>
        -- it follows no call word, so it is free text and not counted
        have hcalled : st.afterCall = false := by simpa [startsOpening] using ha
        simp [ScanState.after, hd, hcalled]
    | _ => simp [ScanState.after, hd]
  · cases kind with
    | call => exact fun _ h => hcall ⟨rfl, h⟩
    | _ => simp [ScanState.after]

lemma literal_step {position : ℕ} {st : ScanState} {cs : List Char} {ps : List Piece} {t : Token}
    {rest : List Token} (hd : st.depth = 0) (ha : st.afterCall → ¬ startsOpening (t :: rest))
    (hcut : Cut isName st cs ps []) (hts : place position ps = t :: rest)
    (hcall : ¬ (t.kind = .call ∧ startsOpening rest)) :
    ∃ p rs mid, p ≠ [] ∧ t.text = String.ofList p ∧ cs = p ++ mid ∧
      (st.after t.kind).depth = 0 ∧ ((st.after t.kind).afterCall → ¬ startsOpening rest) ∧
      Cut isName (st.after t.kind) mid rs [] ∧ place (position + p.length) rs = rest := by
  obtain ⟨c, q, mid, rs, ht, rfl, -, hmid, hrest⟩ := hcut.first hts
  obtain ⟨hd', ha'⟩ := after_literal hd ha hcall
  exact ⟨c :: q, rs, mid, by simp, ht, rfl, hd', ha', hmid, hrest⟩

/-- The invariant is that the scanner stands outside of arguments at the start of every expression,
and has not just read a call word if a parenthesis opens. -/
lemma exists_spans {ts : List Token} {es : List Node} (hp : Grammar.Program ts es) {position : ℕ}
    {st : ScanState} {cs : List Char} {ps : List Piece} (hd : st.depth = 0)
    (ha : st.afterCall → ¬ startsOpening ts) (hcut : Cut isName st cs ps [])
    (hts : place position ps = ts) :
    ∃ spans : List String, cs = spans.flatMap String.toList ∧
      List.Forall₂ (fun e span => span ≠ "" ∧ SpanOf isName e span) es spans := by
  induction hp generalizing position st cs ps with
  | done =>
      cases hcut with
      | done => exact ⟨[], rfl, .nil⟩
      | piece => simp [place] at hts
  | call hc _ ih =>
      subst hts
      obtain ⟨qs, rs, mid, rfl, rfl, halone, hmid, hrs⟩ := callAlone_of_call hd hcut hc
      obtain ⟨spans, rfl, hspans⟩ := ih rfl (by simp) hmid hrs.symm
      exact ⟨String.ofList (spelling qs) :: spans, by simp, .cons halone.spanOf hspans⟩
  | @number t rest es hkind _ ih =>
      obtain ⟨p, rs, mid, hne, ht, rfl, hd', ha', hmid, hrest⟩ :=
        literal_step hd ha hcut hts (by simp [hkind])
      obtain ⟨spans, rfl, hspans⟩ := ih hd' ha' hmid hrest
      refine ⟨t.text :: spans, by simp [ht], .cons ⟨?_, rfl⟩ hspans⟩
      rwa [ht, ne_eq, String.ofList_eq_empty_iff]
  | @text t rest es _ hcall _ _ ih =>
      obtain ⟨p, rs, mid, hne, ht, rfl, hd', ha', hmid, hrest⟩ :=
        literal_step hd ha hcut hts hcall
      obtain ⟨spans, rfl, hspans⟩ := ih hd' ha' hmid hrest
      refine ⟨t.text :: spans, by simp [ht], .cons ⟨?_, rfl⟩ hspans⟩
      rwa [ht, ne_eq, String.ofList_eq_empty_iff]
  | @joined t rest s es _ hcall _ ih =>
      obtain ⟨p, rs, mid, hne, ht, rfl, hd', ha', hmid, hrest⟩ :=
        literal_step hd ha hcut hts hcall
      obtain ⟨spans, rfl, hspans⟩ := ih hd' ha' hmid hrest
      cases hspans with
      | @cons _ span _ spans hspan hspans =>
          obtain ⟨-, rfl⟩ := hspan
          refine ⟨(t.text ++ s) :: spans, by simp [ht], .cons ⟨?_, rfl⟩ hspans⟩
          simp [ht, hne]

/-- A text that is cut and parsed is the spans of its expressions, one after another.  A text or a
number says its span; a call stands alone in its span; strings and bare names stand in no span, and
no two texts are adjacent. -/
theorem source_decomposition {text : String} {es : List Node} (h : Parses isName text es) :
    ∃ spans : List String, text.toList = spans.flatMap String.toList ∧
      List.Forall₂ (fun e span => span ≠ "" ∧ SpanOf isName e span) es spans ∧
      es.IsChain fun e e' => ¬ (e.isText ∧ e'.isText) := by
  obtain ⟨ps, hcut, hp⟩ := parses_iff.mp h
  obtain ⟨spans, htext, hspans⟩ := exists_spans hp rfl (by simp) hcut rfl
  exact ⟨spans, htext, hspans, hp.isChain⟩

/-- Outside of arguments a quote and parentheses are words; inside, a quote begins a string. -/
theorem source_decomposition_quotes :
    ∃ es, Parses (· == "f") "'a) @f((b), ')') 2" es ∧
      es = [.text "'a) ", .call "f" "@f" [.ident "b", .string "')'"], .text " ", .number "2"] ∧
      ∃ spans : List String, "'a) @f((b), ')') 2".toList = spans.flatMap String.toList ∧
        List.Forall₂ (fun e span => span ≠ "" ∧ SpanOf (· == "f") e span) es spans := by
  have hrun : (tokenize (· == "f") "'a) @f((b), ')') 2").map parse? = .ok (some (.ok
      [.text "'a) ", .call "f" "@f" [.ident "b", .string "')'"], .text " ", .number "2"])) := by
    cbv
  have hparse := except_map_eq_ok.mp hrun
  obtain ⟨spans, htext, hspans, -⟩ := source_decomposition hparse
  exact ⟨_, hparse, rfl, spans, htext, hspans⟩

end Sigil
