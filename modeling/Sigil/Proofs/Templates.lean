/-
# Texts with calls

A template is a text in which calls stand between free texts, that is texts without a sigil.  Free
text is carried over as it is, whatever marks, quotes and digits it holds, so the value of a
template is its text with the texts of the values in the places of the calls.  The calls are
evaluated in order, and the first that fails ends the whole.
-/
import Sigil.Proofs.Steps

namespace Sigil

/-- A text with calls between free texts. -/
structure Template where
  /-- The text before the first call. -/
  head : String
  /-- The calls, each with the text after it. -/
  parts : List (String × String)

namespace Template

/-- The calls. -/
def calls (t : Template) : List String := t.parts.map (·.1)

/-- Texts in the places of calls. -/
def fillParts : List String → List (String × String) → String
  | s :: texts, (_, free) :: parts => s ++ (free ++ fillParts texts parts)
  | _, _ => ""

/-- The text with other texts in the places of the calls. -/
def fill (t : Template) (texts : List String) : String := t.head ++ fillParts texts t.parts

/-- The text. -/
def text (t : Template) : String := t.fill t.calls

/-- The texts around the calls contain no sigil, and each call is parsed to one call. -/
def Proper (isName : String → Bool) (t : Template) : Prop :=
  sigil ∉ t.head.toList ∧ ∀ part ∈ t.parts, sigil ∉ part.2.toList ∧
    ∃ name source args, Parses isName part.1 [.call name source args]

/-- The template is one call with nothing around it. -/
def isSole (t : Template) : Bool := t.head == "" && t.parts.map (·.2) == [""]

/-- The value that a template stands for, given the values of its calls and their texts. -/
def result (t : Template) (values : List Value) (texts : List String) : Value :=
  if t.isSole then values.headD .null else .text (t.fill texts)

end Template

/-- The texts run one after another, each in the session that the one before it leaves. -/
inductive Runs (sc : Scope) : Session → List String → List Value → Session → Prop
  | nil {s : Session} : Runs sc s [] [] s
  | cons {s t u : Session} {text : String} {texts : List String} {v : Value} {values : List Value} :
      (sc.run text).run s = some (.ok v, t) → Runs sc t texts values u →
      Runs sc s (text :: texts) (v :: values) u

variable {isName : String → Bool}

/-! ### The expressions of a template -/

/-- Expressions that are the literal texts and numbers of these characters. -/
inductive Literals : List Node → List Char → Prop
  | nil : Literals [] []
  | text {s : String} {es : List Node} {cs : List Char} : Literals es cs →
      Literals (.text s :: es) (s.toList ++ cs)
  | number {s : String} {es : List Node} {cs : List Char} : Literals es cs →
      Literals (.number s :: es) (s.toList ++ cs)

/-- The expressions of calls and the free texts after them. -/
inductive PartNodes (isName : String → Bool) : List (String × String) → List Node → Prop
  | nil : PartNodes isName [] []
  | cons {c free name source : String} {args ls es : List Node} {parts : List (String × String)} :
      Parses isName c [.call name source args] → Literals ls free.toList →
      PartNodes isName parts es →
      PartNodes isName ((c, free) :: parts) (.call name source args :: (ls ++ es))

lemma PartNodes.head_not_isText {parts : List (String × String)} {es : List Node}
    (h : PartNodes isName parts es) : ∀ e ∈ es.head?, ¬ e.isText := by
  cases h with
  | nil => simp
  | cons => simp [Node.isText]

/-- No call word among the pieces is called, where these tokens follow. -/
def Uncalled (us : List Token) : List Piece → Prop
  | [] => True
  | (kind, _) :: ps => ¬ (kind = .call ∧ startsOpening (place 0 ps ++ us)) ∧ Uncalled us ps

lemma startsOpening_place (position : ℕ) (ps : List Piece) (us : List Token) :
    startsOpening (place position ps ++ us) = startsOpening (place 0 ps ++ us) := by
  cases ps <;> rfl

lemma uncalled_of_forall {ps : List Piece} (h : ∀ piece ∈ ps, piece.1 ≠ .call) (us : List Token) :
    Uncalled us ps := by
  induction ps with
  | nil => trivial
  | cons piece ps ih =>
      exact ⟨fun hcall => h piece (by simp) hcall.1, ih fun q hq => h q (by simp [hq])⟩

/-- Pieces of which none is called are parsed to literals. -/
lemma exists_literals {ps : List Piece} (position : ℕ) {us : List Token} {es : List Node}
    (hps : Uncalled us ps) (hp : Grammar.Program us es) (hes : ∀ e ∈ es.head?, ¬ e.isText) :
    ∃ ls, Literals ls (spelling ps) ∧ Grammar.Program (place position ps ++ us) (ls ++ es) := by
  induction ps generalizing position with
  | nil => exact ⟨[], .nil, hp⟩
  | cons piece ps ih =>
      obtain ⟨kind, p⟩ := piece
      obtain ⟨hhead, hrest⟩ := hps
      obtain ⟨ls, hls, hprogram⟩ := ih (position + p.length) hrest
      have hspell : spelling ((kind, p) :: ps) = (String.ofList p).toList ++ spelling ps := by simp
      rw [hspell]
      generalize spelling ps = cs at hls
      by_cases hnumber : kind = .number
      · exact ⟨.number (String.ofList p) :: ls, .number hls, .number hnumber hprogram⟩
      · have hcall : ¬ (kind = .call ∧ startsOpening (place (position + p.length) ps ++ us)) := by
          rwa [startsOpening_place]
        by_cases htext : ∃ s more, ls = .text s :: more
        · -- the literal texts of this piece and of the next one are one text
          obtain ⟨s, more, rfl⟩ := htext
          cases hls with
          | text hmore =>
              refine ⟨.text (String.ofList p ++ s) :: more, ?_, .joined hnumber hcall hprogram⟩
              simpa using Literals.text (s := String.ofList p ++ s) hmore
        · refine ⟨.text (String.ofList p) :: ls, .text hls, .text hnumber hcall hprogram ?_⟩
          cases hls with
          | nil => exact hes
          | text => exact absurd ⟨_, _, rfl⟩ htext
          | number => simp [Node.isText]

/-- A call begins with a sigil, which stands in no word. -/
lemma CallAlone.apart {cs : List Char} {ps : List Piece} {e : Node} (h : CallAlone isName cs ps e)
    (rest : List Char) : Apart (cs ++ rest) := by
  obtain ⟨_, _, _, qs, _, -, rfl, -⟩ := call_ends h.1 h.2
  cases h.1 with
  | piece hp hs _ =>
      obtain ⟨_, rfl⟩ := sigil_of_isCallWord (pieceAt?_form hp).call_word.1
      obtain ⟨rfl, -⟩ := List.cons.inj hs
      exact apart_mark (by decide) _

/-- A call alone is a call wherever it stands and whatever tokens follow it. -/
lemma CallAlone.call_before {cs : List Char} {ps : List Piece} {e : Node}
    (h : CallAlone isName cs ps e) (position : ℕ) (rest : List Token) :
    Grammar.Call (place position ps ++ rest) e rest := by
  obtain ⟨seg, c, -, hseg, hframe⟩ := (call_elsewhere h.2 position).frame
  rw [hseg]
  simpa using hframe rest

/-- The calls of a template and the free texts after them are parsed part by part. -/
lemma exists_partNodes {parts : List (String × String)}
    (hparts : ∀ part ∈ parts, sigil ∉ part.2.toList ∧
      ∃ name source args, Parses isName part.1 [.call name source args]) (position : ℕ) :
    ∃ ps es, Cut isName ⟨0, false⟩ (Template.fillParts (parts.map (·.1)) parts).toList ps [] ∧
      Apart (Template.fillParts (parts.map (·.1)) parts).toList ∧ PartNodes isName parts es ∧
      Grammar.Program (place position ps) es := by
  induction parts generalizing position with
  | nil => exact ⟨[], [], .done, by simp [Apart, Template.fillParts], .nil, .done⟩
  | cons part parts ih =>
      obtain ⟨c, free⟩ := part
      obtain ⟨hfree, name, source, args, hc⟩ : sigil ∉ free.toList ∧
          ∃ name source args, Parses isName c [.call name source args] := hparts (c, free) (by simp)
      obtain ⟨ps, halone⟩ := parses_call_iff.mp hc
      obtain ⟨qs, es, hcut, hapart, hnodes, hprogram⟩ := ih (fun part hpart => hparts part
        (by simp [hpart])) (position + (spelling ps).length + free.toList.length)
      obtain ⟨ws, hws, hspell, hkinds⟩ := exists_cut_of_free isName hapart hfree
      obtain ⟨ls, hls, hrest⟩ := exists_literals (position + (spelling ps).length)
        (uncalled_of_forall hkinds _) hprogram hnodes.head_not_isText
      rw [hspell] at hls
      refine ⟨ps ++ (ws ++ qs), .call name source args :: (ls ++ es), ?_, ?_,
        .cons hc hls hnodes, ?_⟩
      · have htail : Cut isName ((⟨0, false⟩ : ScanState).afterAll (ps.map Prod.fst))
            (free.toList ++ (Template.fillParts (parts.map (·.1)) parts).toList) (ws ++ qs) [] := by
          rw [halone.afterAll]
          exact hws.append (by rwa [afterAll_zero hkinds])
        simpa [Template.fillParts] using (halone.cut_append _).append htail
      · simpa [Template.fillParts] using halone.apart _
      · rw [place_append, place_append, hspell]
        exact .call (halone.call_before position _) hrest

/-- A template is parsed to the literals of its head and the expressions of its parts. -/
lemma Template.Proper.parses {t : Template} (ht : t.Proper isName) :
    ∃ ls es, Parses isName t.text (ls ++ es) ∧ Literals ls t.head.toList ∧
      PartNodes isName t.parts es := by
  obtain ⟨hfree, hparts⟩ := ht
  obtain ⟨ps, es, hcut, hapart, hnodes, hprogram⟩ := exists_partNodes hparts t.head.toList.length
  obtain ⟨ws, hws, hspell, hkinds⟩ := exists_cut_of_free isName hapart hfree
  obtain ⟨ls, hls, hrest⟩ := exists_literals 0 (uncalled_of_forall hkinds _) hprogram
    hnodes.head_not_isText
  rw [hspell] at hls
  refine ⟨ls, es, parses_iff.mpr ⟨ws ++ ps, ?_, ?_⟩, hls, hnodes⟩
  · have htail := hws.append (by rwa [afterAll_zero hkinds])
    simpa [Template.text, Template.fill, Template.calls] using htail
  · rwa [place_append, hspell, Nat.zero_add]

/-! ### The evaluation of a template -/

section

variable {sc : Scope} {s t : Session}

/-- A text that is one call has the value of the call, and both have the same text. -/
lemma evalTop_of_run_ok {text : String} {e : Node} {v : Value}
    (h : Parses sc.functions.isName text [e]) (hrun : (sc.run text).run s = some (.ok v, t)) :
    ∃ w, (sc.evalTop e).run s = some (.ok w, t) ∧ w.toText = v.toText := by
  rw [run_of_parses h, Scope.eval, Eval.run_bind, Option.bind_eq_some_iff] at hrun
  obtain ⟨⟨r, u⟩, htop, hrest⟩ := hrun
  cases r with
  | error err => simp at hrest
  | ok w =>
      simp only [Eval.run_pure, Option.some.injEq, Prod.mk.injEq, Except.ok.injEq] at hrest
      obtain ⟨rfl, rfl⟩ := hrest
      refine ⟨w, htop, ?_⟩
      split <;> rfl

lemma evalTop_of_run_error {text : String} {e : Node} {err : Failure}
    (h : Parses sc.functions.isName text [e])
    (hrun : (sc.run text).run s = some (.error err, t)) :
    (sc.evalTop e).run s = some (.error err, t) := by
  rw [run_of_parses h, Scope.eval, Eval.run_bind, Option.bind_eq_some_iff] at hrun
  obtain ⟨⟨r, u⟩, htop, hrest⟩ := hrun
  cases r with
  | error _ => rwa [← hrest]
  | ok w => simp at hrest

lemma evalTop_of_run_none {text : String} {e : Node} (h : Parses sc.functions.isName text [e])
    (hrun : (sc.run text).run s = none) : (sc.evalTop e).run s = none := by
  rw [run_of_parses h, Scope.eval, Eval.run_bind] at hrun
  cases htop : (sc.evalTop e).run s with
  | none => rfl
  | some p =>
      obtain ⟨err | w, u⟩ := p <;> simp [htop] at hrun

lemma evalJoined_cons {e : Node} {w : String} (es : List Node)
    (he : sc.evalTop e = pure (.text w)) :
    sc.evalJoined (e :: es) = (w ++ ·) <$> sc.evalJoined es := by
  have hw : Eval.ofFault (Value.text w).toText = pure w := rfl
  rw [Scope.evalJoined, he, pure_bind, hw, pure_bind, map_eq_pure_bind]

/-- Literals evaluate to their own characters, without an effect. -/
lemma Literals.evalJoined {ls : List Node} {cs : List Char} (h : Literals ls cs) (es : List Node) :
    sc.evalJoined (ls ++ es) = (String.ofList cs ++ ·) <$> sc.evalJoined es := by
  have happend (w : String) (cs : List Char) (x : String) :
      w ++ (String.ofList cs ++ x) = String.ofList (w.toList ++ cs) ++ x := by
    simp [String.append_assoc]
  induction h with
  | nil => simp
  | @text w _ cs _ ih =>
      rw [List.cons_append, evalJoined_cons _ rfl, ih]
      simp only [Functor.map_map, happend w cs]
  | @number w _ cs _ ih =>
      rw [List.cons_append, evalJoined_cons _ rfl, ih]
      simp only [Functor.map_map, happend w cs]

/-- A call that succeeds puts its text before what the further expressions say. -/
lemma run_evalJoined_call {c : String} {e : Node} {v : Value} {x : String}
    (hc : Parses sc.functions.isName c [e]) (hrun : (sc.run c).run s = some (.ok v, t))
    (hx : v.toText = .ok x) (es : List Node) :
    (sc.evalJoined (e :: es)).run s = ((x ++ ·) <$> sc.evalJoined es).run t := by
  obtain ⟨w, htop, hw⟩ := evalTop_of_run_ok hc hrun
  have hpart : (Eval.ofFault w.toText).run t = some (.ok x, t) := by
    rw [Eval.run_ofFault, hw, hx]
    rfl
  rw [Scope.evalJoined, Eval.run_bind_ok htop, Eval.run_bind_ok hpart, map_eq_pure_bind]

lemma PartNodes.run_evalJoined {parts : List (String × String)} {es : List Node}
    {values : List Value} {texts : List String} (h : PartNodes sc.functions.isName parts es)
    (hruns : Runs sc s (parts.map (·.1)) values t)
    (htexts : List.Forall₂ (fun v x => v.toText = .ok x) values texts) :
    (sc.evalJoined es).run s = some (.ok (Template.fillParts texts parts), t) := by
  induction h generalizing s values texts with
  | nil =>
      cases hruns with
      | nil =>
          cases htexts
          rfl
  | @cons c free name source args ls es parts hc hls _ ih =>
      cases hruns with
      | cons hrun hruns =>
          cases htexts with
          | cons hx htexts =>
              rw [run_evalJoined_call hc hrun hx, hls.evalJoined, Functor.map_map, Eval.run_map,
                ih hruns htexts]
              simp [Except.map, Template.fillParts]

/-- The first call that fails ends the evaluation, in the session that it leaves. -/
lemma PartNodes.run_evalJoined_error {parts : List (String × String)} {es : List Node}
    {values : List Value} {before after : List String} {c : String} {err : Failure} {u : Session}
    (h : PartNodes sc.functions.isName parts es) (hcalls : parts.map (·.1) = before ++ c :: after)
    (hruns : Runs sc s before values t) (htexts : ∀ v ∈ values, ∃ x, v.toText = .ok x)
    (hfail : (sc.run c).run t = some (.error err, u)) :
    (sc.evalJoined es).run s = some (.error err, u) := by
  induction h generalizing s values before with
  | nil => simp at hcalls
  | @cons d free name source args ls es parts hd hls _ ih =>
      cases before with
      | nil =>
          obtain ⟨rfl, -⟩ : d = c ∧ _ := by simpa using hcalls
          cases hruns with
          | nil =>
              rw [Scope.evalJoined, Eval.run_bind_error (evalTop_of_run_error hd hfail)]
      | cons b before =>
          obtain ⟨rfl, hmore⟩ : d = b ∧ parts.map (·.1) = before ++ c :: after := by
            simpa using hcalls
          cases hruns with
          | @cons _ _ _ _ _ v values hrun hruns =>
              obtain ⟨x, hx⟩ := htexts v (by simp)
              rw [run_evalJoined_call hd hrun hx, hls.evalJoined, Functor.map_map, Eval.run_map,
                ih hmore hruns fun w hw => htexts w (by simp [hw])]
              rfl

/-- Unless they are a call alone, the expressions of a template have their joined text as value. -/
lemma eval_eq_evalJoined {ls es : List Node} {cs : List Char} (hls : Literals ls cs)
    (hsole : ls = [] → ∀ e, es ≠ [e]) :
    sc.eval (ls ++ es) = .text <$> sc.evalJoined (ls ++ es) := by
  rcases h : ls ++ es with - | ⟨e, - | ⟨e', more⟩⟩
  · rfl
  · have hliteral : ∃ w, (e = .text w ∨ e = .number w) := by
      cases hls with
      | nil => exact absurd h (hsole rfl e)
      | @text w => exact ⟨w, .inl (List.cons.inj h).1.symm⟩
      | @number w => exact ⟨w, .inr (List.cons.inj h).1.symm⟩
    -- a single literal has its own characters as value either way
    obtain ⟨w, rfl | rfl⟩ := hliteral <;>
      · rw [evalJoined_cons [] rfl]
        simp [Scope.eval, Scope.evalTop, Scope.evalJoined]
  · rfl

lemma Literals.nil_inv {cs : List Char} (h : Literals [] cs) : cs = [] := by
  cases h with
  | nil => rfl

lemma PartNodes.single_inv {parts : List (String × String)} {e : Node}
    (h : PartNodes isName parts [e]) : ∃ c, parts = [(c, "")] := by
  generalize hes : [e] = es at h
  cases h with
  | nil => simp at hes
  | @cons c free _ _ _ ls es _ _ hls hrest =>
      obtain ⟨-, hnil⟩ := List.cons.inj hes
      obtain ⟨rfl, rfl⟩ := List.append_eq_nil_iff.mp hnil.symm
      obtain rfl : free = "" := by simpa using hls.nil_inv
      cases hrest with
      | nil => exact ⟨c, rfl⟩

lemma Template.isSole_iff {t : Template} : t.isSole ↔ ∃ c, t = ⟨"", [(c, "")]⟩ := by
  obtain ⟨head, parts⟩ := t
  simp only [isSole, Bool.and_eq_true, beq_iff_eq, Template.mk.injEq, exists_and_left,
    List.map_eq_singleton_iff, Prod.exists]
  constructor
  · rintro ⟨rfl, c, free, rfl, rfl⟩
    exact ⟨rfl, c, rfl⟩
  · rintro ⟨rfl, c, rfl⟩
    exact ⟨rfl, c, "", rfl, rfl⟩

/-- Unless it is a call alone, a template has its head and the joined text of its parts as value. -/
lemma Template.Proper.run_eq {tp : Template} (ht : tp.Proper sc.functions.isName)
    (hsole : ¬ tp.isSole) : ∃ es, PartNodes sc.functions.isName tp.parts es ∧
      ∀ s, (sc.run tp.text).run s =
        ((fun x => Value.text (tp.head ++ x)) <$> sc.evalJoined es).run s := by
  obtain ⟨ls, es, hparse, hls, hes⟩ := ht.parses
  have hsingle : ls = [] → ∀ e, es ≠ [e] := by
    rintro rfl e rfl
    obtain ⟨c, hc⟩ := hes.single_inv
    have hhead : tp.head = "" := by simpa using hls.nil_inv
    exact hsole (isSole_iff.mpr ⟨c, congrArg₂ Template.mk hhead hc⟩)
  refine ⟨es, hes, fun s => ?_⟩
  rw [run_of_parses hparse, eval_eq_evalJoined hls hsingle, hls.evalJoined, Functor.map_map,
    String.ofList_toList]

lemma Template.text_of_isSole {tp : Template} (h : tp.isSole) : tp.calls = [tp.text] := by
  obtain ⟨c, rfl⟩ := isSole_iff.mp h
  simp [Template.calls, Template.text, Template.fill, Template.fillParts]

end

/-- **The law of templates.**  If the calls of a template succeed one after another with values that
have a text, the template has the value that its calls give it, in the session that they leave.  If
a call fails and those before it succeed with values that have a text, the template fails as the
call does, in the session that the call leaves. -/
theorem run_template (sc : Scope) {tp : Template} (ht : tp.Proper sc.functions.isName)
    (s : Session) :
    (∀ values texts t, Runs sc s tp.calls values t →
      List.Forall₂ (fun v x => v.toText = .ok x) values texts →
        (sc.run tp.text).run s = some (.ok (tp.result values texts), t)) ∧
    (∀ before c after values t err u, tp.calls = before ++ c :: after →
      Runs sc s before values t → (∀ v ∈ values, ∃ x, v.toText = .ok x) →
        (sc.run c).run t = some (.error err, u) →
          (sc.run tp.text).run s = some (.error err, u)) := by
  by_cases hsole : tp.isSole
  · -- the template is its only call, so there is nothing to join
    have hcalls := Template.text_of_isSole hsole
    refine ⟨fun values texts t hruns _ => ?_,
      fun before c after values t err u hsplit hruns _ hfail => ?_⟩
    · rw [hcalls] at hruns
      cases hruns with
      | cons hrun hruns =>
          cases hruns with
          | nil => simpa [Template.result, hsole] using hrun
    · rw [hcalls] at hsplit
      cases before with
      | nil =>
          obtain ⟨rfl, -⟩ := List.cons.inj hsplit
          cases hruns with
          | nil => exact hfail
      | cons b before => simp at hsplit
  · obtain ⟨es, hes, hrun⟩ := ht.run_eq hsole
    refine ⟨fun values texts t hruns htexts => ?_,
      fun before c after values t err u hsplit hruns htexts hfail => ?_⟩
    · rw [hrun, Eval.run_map, hes.run_evalJoined hruns htexts]
      simp [Except.map, Template.result, hsole, Template.fill]
    · rw [hrun, Eval.run_map, hes.run_evalJoined_error hsplit hruns htexts hfail]
      rfl

/-- A scope with one function, which gives the list of its arguments. -/
def listScope : Scope where
  functions := ⟨[⟨"list", .function fun args _ => pure (.list args), false⟩]⟩
  params := []
  reenter := fun _ _ _ => none

/-- Quotes, parentheses and numbers around calls are carried over; a name without value ends the
run. -/
theorem run_template_lists :
    let s : Session := ⟨Host.blank, []⟩
    let tp : Template := ⟨"it's (", [("@list('a')", ") 1.5 "), ("@list()", "'")]⟩
    let broken : Template := ⟨"", [("@list()", ", "), ("@list(x)", ")")]⟩
    tp.Proper listScope.functions.isName ∧ broken.Proper listScope.functions.isName ∧
      (listScope.run tp.text).run s = some (.ok (.text "it's ([\"a\"]) 1.5 []'"), s) ∧
      (listScope.run broken.text).run s = some (.error (.undefined "x" none), s) := by
  intro s tp broken
  have hempty : Parses listScope.functions.isName "@list()" [.call "list" "@list" []] :=
    except_map_eq_ok.mp (by cbv)
  have htext : Parses listScope.functions.isName "@list('a')"
      [.call "list" "@list" [.string "'a'"]] := except_map_eq_ok.mp (by cbv)
  have hname : Parses listScope.functions.isName "@list(x)"
      [.call "list" "@list" [.ident "x"]] := except_map_eq_ok.mp (by cbv)
  have hproper : tp.Proper listScope.functions.isName := by
    refine ⟨by decide, ?_⟩
    simp only [tp, List.mem_cons, List.not_mem_nil, or_false, forall_eq_or_imp, forall_eq]
    exact ⟨⟨by decide, _, _, _, htext⟩, by decide, _, _, _, hempty⟩
  have hbroken : broken.Proper listScope.functions.isName := by
    refine ⟨by decide, ?_⟩
    simp only [broken, List.mem_cons, List.not_mem_nil, or_false, forall_eq_or_imp, forall_eq]
    exact ⟨⟨by decide, _, _, _, hempty⟩, by decide, _, _, _, hname⟩
  have hrunText : (listScope.run "@list('a')").run s = some (.ok (.list [.text "a"]), s) := by
    rw [run_of_parses htext]
    rfl
  have hrunEmpty : (listScope.run "@list()").run s = some (.ok (.list []), s) := by
    rw [run_of_parses hempty]
    rfl
  have hrunName : (listScope.run "@list(x)").run s = some (.error (.undefined "x" none), s) := by
    rw [run_of_parses hname]
    rfl
  refine ⟨hproper, hbroken, ?_, ?_⟩
  · exact (run_template listScope hproper s).1 _ ["[\"a\"]", "[]"] _
      (.cons hrunText (.cons hrunEmpty .nil)) (.cons (by rfl) (.cons (by rfl) .nil))
  · exact (run_template listScope hbroken s).2 ["@list()"] _ _ _ _ _ _ rfl
      (.cons hrunEmpty .nil) (by simpa using ⟨"[]", rfl⟩) hrunName

end Sigil
