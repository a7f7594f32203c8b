/-
# Parsing follows the grammar

The parser gives the expressions of a list of tokens exactly if the grammar derives them, and an
error in every other case.  Soundness is by induction on the depth to which the parser may descend,
one lemma for each of its functions.  For completeness the depth is bounded by three steps for each
token: a phrase descends through a list of arguments and an argument to a call at most once for
every token it begins with.
-/
import Sigil.Proofs.Grammar
import Sigil.Proofs.Outcome

namespace Sigil

namespace Grammar

variable {ending : Token} {fuel : ℕ}

/-! ### Soundness -/

/-- What the parser reads to a depth are phrases of the grammar. -/
structure Sound (ending : Token) (fuel : ℕ) : Prop where
  /-- Arguments, where no blank comes first. -/
  argument : ∀ {ts rest e}, parseArgument ending fuel ts = .ok (e, rest) →
    (∀ t ∈ ts.head?, ¬ t.isBlank) → Argument ts e rest
  /-- Calls, from behind the opening parenthesis. -/
  call : ∀ {w o ts rest e}, w.kind = .call → o.kind = .opening →
    parseCall ending fuel w ts = .ok (e, rest) → Call (w :: o :: ts) e rest
  /-- Lists of arguments. -/
  arguments : ∀ {ts rest es}, parseArguments ending fuel ts = .ok (es, rest) →
    Arguments ts es rest

lemma head_skipBlanks (ts : List Token) : ∀ t ∈ (skipBlanks ts).head?, ¬ t.isBlank := by
  intro t ht
  have h := List.head?_dropWhile_not Token.isBlank ts
  rw [skipBlanks] at ht
  rw [Option.mem_def.mp ht] at h
  simpa using h

lemma expectClose_eq_ok {ts rest : List Token} (h : expectClose ending ts = .ok rest) :
    ∃ c, ts = c :: rest ∧ c.kind = .closing := by
  cases ts with
  | nil => simp [expectClose] at h
  | cons c ts =>
      simp only [expectClose] at h
      split at h
      · next hc => exact ⟨c, by simpa using h, by simpa using hc⟩
      · simp at h

lemma startsClosing_eq_true {ts : List Token} (h : startsClosing ts) :
    ∃ c rest, ts = c :: rest ∧ c.kind = .closing := by
  cases ts with
  | nil => simp [startsClosing] at h
  | cons c rest => exact ⟨c, rest, rfl, by simpa [startsClosing] using h⟩

lemma startsOpening_eq_true {ts : List Token} (h : startsOpening ts) :
    ∃ o rest, ts = o :: rest ∧ o.kind = .opening := by
  cases ts with
  | nil => simp [startsOpening] at h
  | cons o rest => exact ⟨o, rest, rfl, by simpa [startsOpening] using h⟩

lemma Sound.argument_succ (h : Sound ending fuel) {ts rest : List Token} {e : Node}
    (hp : parseArgument ending (fuel + 1) ts = .ok (e, rest))
    (hts : ∀ t ∈ ts.head?, ¬ t.isBlank) : Argument ts e rest := by
  cases ts with
  | nil => simp [parseArgument] at hp
  | cons t ts =>
      have hblank : ¬ t.isBlank := hts t rfl
      rw [parseArgument] at hp
      split at hp
      · next ht =>
          simp only [Except.ok.injEq, Prod.mk.injEq] at hp
          obtain ⟨rfl, rfl⟩ := hp
          exact .number ht
      · next ht =>
          simp only [Except.ok.injEq, Prod.mk.injEq] at hp
          obtain ⟨rfl, rfl⟩ := hp
          exact .string ht
      · next ht =>
          simp only [Except.ok.injEq, Prod.mk.injEq] at hp
          obtain ⟨rfl, rfl⟩ := hp
          rw [wordNode]
          split
          · next hn => exact .name ht (isBareName_iff.mp hn)
          · next hn => exact .word ht hblank fun hn' => hn (isBareName_iff.mpr hn')
      · next ht =>
          split at hp
          · next ho =>
              obtain ⟨o, ts', rfl, ho'⟩ := startsOpening_eq_true ho
              exact .call (h.call ht ho' hp)
          · next ho =>
              simp only [Except.ok.injEq, Prod.mk.injEq] at hp
              obtain ⟨rfl, rfl⟩ := hp
              exact .callWord ht ho
      · next ht =>
          split at hp
          · simp at hp
          · obtain ⟨⟨inner, after⟩, hinner, hp⟩ := except_bind_eq_ok.mp hp
            obtain ⟨last, hlast, hp⟩ := except_bind_eq_ok.mp hp
            simp only [pure, Except.pure, Except.ok.injEq, Prod.mk.injEq] at hp
            obtain ⟨rfl, rfl⟩ := hp
            obtain ⟨c, hafter, hc⟩ := expectClose_eq_ok hlast
            have harg := h.argument hinner (head_skipBlanks ts)
            rw [← takeWhile_append_skipBlanks after, hafter] at harg
            rw [← takeWhile_append_skipBlanks ts]
            exact .group ht (blanks_takeWhile _) harg (blanks_takeWhile _) hc
      · simp at hp

lemma Sound.call_succ (h : Sound ending fuel) {w o : Token} {ts rest : List Token} {e : Node}
    (hw : w.kind = .call) (ho : o.kind = .opening)
    (hp : parseCall ending (fuel + 1) w ts = .ok (e, rest)) : Call (w :: o :: ts) e rest := by
  rw [parseCall] at hp
  split at hp
  · next hclose =>
      obtain ⟨c, rest', hts, hc⟩ := startsClosing_eq_true hclose
      simp only [hts, List.drop_succ_cons, List.drop_zero, Except.ok.injEq, Prod.mk.injEq] at hp
      obtain ⟨rfl, rfl⟩ := hp
      rw [← takeWhile_append_skipBlanks ts, hts]
      exact .empty hw ho (blanks_takeWhile ts) hc
  · obtain ⟨⟨args, last⟩, hargs, hp⟩ := except_bind_eq_ok.mp hp
    simp only [pure, Except.pure, Except.ok.injEq, Prod.mk.injEq] at hp
    obtain ⟨rfl, rfl⟩ := hp
    exact .arguments hw ho (h.arguments hargs)

lemma Sound.arguments_succ (h : Sound ending fuel) {ts rest : List Token} {es : List Node}
    (hp : parseArguments ending (fuel + 1) ts = .ok (es, rest)) : Arguments ts es rest := by
  rw [parseArguments] at hp
  obtain ⟨⟨arg, after⟩, harg, hp⟩ := except_bind_eq_ok.mp hp
  have harg := h.argument harg (head_skipBlanks ts)
  rw [← takeWhile_append_skipBlanks after] at harg
  rw [← takeWhile_append_skipBlanks ts]
  simp only at hp
  split at hp
  · simp at hp
  · next t more hafter =>
      rw [hafter] at harg
      split at hp
      · next ht =>
          obtain ⟨⟨args, last⟩, hargs, hp⟩ := except_bind_eq_ok.mp hp
          simp only [pure, Except.pure, Except.ok.injEq, Prod.mk.injEq] at hp
          obtain ⟨rfl, rfl⟩ := hp
          exact .more (blanks_takeWhile _) harg (blanks_takeWhile _) (by simpa using ht)
            (h.arguments hargs)
      · split at hp
        · next ht =>
            simp only [pure, Except.pure, Except.ok.injEq, Prod.mk.injEq] at hp
            obtain ⟨rfl, rfl⟩ := hp
            exact .last (blanks_takeWhile _) harg (blanks_takeWhile _) (by simpa using ht)
        · simp at hp

lemma sound (ending : Token) : ∀ fuel, Sound ending fuel
  | 0 => ⟨fun h => by simp [parseArgument] at h, fun _ _ h => by simp [parseCall] at h,
      fun h => by simp [parseArguments] at h⟩
  | fuel + 1 =>
      have ih := sound ending fuel
      ⟨ih.argument_succ, ih.call_succ, ih.arguments_succ⟩

/-! ### Completeness -/

lemma skipBlanks_of_argument {ws ts rest : List Token} {e : Node} (hws : Blanks ws)
    (h : Argument ts e rest) : skipBlanks (ws ++ ts) = ts := by
  obtain ⟨t, ts', rfl, hb, -⟩ := h.head
  exact skipBlanks_append hws hb ts'

lemma skipBlanks_of_kind {ws : List Token} (hws : Blanks ws) {c : Token} {k : TokenKind}
    (hc : c.kind = k) (hk : k ≠ .text) (rest : List Token) :
    skipBlanks (ws ++ c :: rest) = c :: rest :=
  skipBlanks_append hws (fun hb => hk (hc ▸ kind_of_isBlank hb)) rest

lemma startsClosing_of_argument {ts rest : List Token} {e : Node} (h : Argument ts e rest) :
    ¬ startsClosing ts := by
  obtain ⟨t, ts', rfl, -, ht⟩ := h.head
  simpa [startsClosing] using ht

lemma Argument.length_lt {ts rest : List Token} {e : Node} (h : Argument ts e rest) :
    rest.length < ts.length := by
  obtain ⟨seg, rfl, hseg⟩ := h.frame
  cases seg with
  | nil =>
      -- before no token at all it would still be an argument, but an argument has a first token
      obtain ⟨t, ts', hnil, -⟩ := (hseg [] (by simp [startsOpening])).head
      simp at hnil
  | cons s seg =>
      simp only [List.cons_append, List.length_cons, List.length_append]
      omega

mutual

/-- An argument is read as such at any sufficient depth. -/
lemma Argument.complete {ts rest : List Token} {e : Node} (h : Argument ts e rest) (fuel : ℕ)
    (hf : 3 * ts.length ≤ fuel) : parseArgument ending fuel ts = .ok (e, rest) :=
  match h with
  | @Argument.number t _ ht => by
      obtain ⟨fuel, rfl⟩ := Nat.exists_eq_succ_of_ne_zero (show fuel ≠ 0 by simp at hf; omega)
      simp [parseArgument, ht]
  | @Argument.string t _ ht => by
      obtain ⟨fuel, rfl⟩ := Nat.exists_eq_succ_of_ne_zero (show fuel ≠ 0 by simp at hf; omega)
      simp [parseArgument, ht]
  | @Argument.name t _ ht hn => by
      obtain ⟨fuel, rfl⟩ := Nat.exists_eq_succ_of_ne_zero (show fuel ≠ 0 by simp at hf; omega)
      simp [parseArgument, ht, wordNode, isBareName_iff.mpr hn]
  | @Argument.word t _ ht hb hn => by
      obtain ⟨fuel, rfl⟩ := Nat.exists_eq_succ_of_ne_zero (show fuel ≠ 0 by simp at hf; omega)
      have hn' : ¬ isBareName t.text := fun h => hn (isBareName_iff.mp h)
      simp [parseArgument, ht, wordNode, hn']
  | @Argument.callWord t _ ht ho => by
      obtain ⟨fuel, rfl⟩ := Nat.exists_eq_succ_of_ne_zero (show fuel ≠ 0 by simp at hf; omega)
      simp [parseArgument, ht, ho]
  | .call hc => by
      obtain ⟨w, o, ts', rfl, hw, ho⟩ := hc.head
      simp only [List.length_cons] at hf
      obtain ⟨fuel, rfl⟩ := Nat.exists_eq_succ_of_ne_zero (show fuel ≠ 0 by omega)
      have hcall := hc.complete w o ts' rfl fuel (by omega)
      simp [parseArgument, hw, startsOpening, ho, hcall]
  | @Argument.group o c ws ws' ts rest _ ho hws ha hws' hc => by
      simp only [List.length_cons, List.length_append] at hf
      obtain ⟨fuel, rfl⟩ := Nat.exists_eq_succ_of_ne_zero (show fuel ≠ 0 by omega)
      have hinner := ha.complete fuel (by omega)
      rw [parseArgument, skipBlanks_of_argument hws ha, hinner]
      simp [ho, startsClosing_of_argument ha, skipBlanks_of_kind hws' hc, expectClose, hc,
        bind, Except.bind, pure, Except.pure]

/-- A call is read as such, from behind the opening parenthesis. -/
lemma Call.complete {ts rest : List Token} {e : Node} (h : Call ts e rest) (w o : Token)
    (ts' : List Token) (hts : ts = w :: o :: ts') (fuel : ℕ) (hf : 3 * ts'.length + 2 ≤ fuel) :
    parseCall ending fuel w ts' = .ok (e, rest) :=
  match h with
  | @Call.empty _ _ c ws rest hw ho hws hc => by
      obtain ⟨rfl, rfl, rfl⟩ : _ = w ∧ _ = o ∧ _ = ts' := by simpa using hts
      obtain ⟨fuel, rfl⟩ := Nat.exists_eq_succ_of_ne_zero (show fuel ≠ 0 by omega)
      rw [parseCall, skipBlanks_of_kind hws hc (by decide)]
      simp [startsClosing, hc]
  | @Call.arguments _ _ _ _ es hw ho has => by
      obtain ⟨rfl, rfl, rfl⟩ : _ = w ∧ _ = o ∧ _ = ts' := by simpa using hts
      obtain ⟨fuel, rfl⟩ := Nat.exists_eq_succ_of_ne_zero (show fuel ≠ 0 by omega)
      obtain ⟨hclose, hargs⟩ := has.complete fuel (by omega)
      simp [parseCall, hclose, hargs, bind, Except.bind, pure, Except.pure]

/-- A list of arguments is read as such, and it does not begin with the parenthesis that closes
it. -/
lemma Arguments.complete {ts rest : List Token} {es : List Node} (h : Arguments ts es rest)
    (fuel : ℕ) (hf : 3 * ts.length + 1 ≤ fuel) :
    ¬ startsClosing (skipBlanks ts) ∧ parseArguments ending fuel ts = .ok (es, rest) :=
  match h with
  | @Arguments.last c ws ws' ts rest _ hws ha hws' hc => by
      simp only [List.length_append] at hf
      obtain ⟨fuel, rfl⟩ := Nat.exists_eq_succ_of_ne_zero (show fuel ≠ 0 by omega)
      have harg := ha.complete fuel (by omega)
      rw [parseArguments, skipBlanks_of_argument hws ha, harg]
      refine ⟨startsClosing_of_argument ha, ?_⟩
      simp [skipBlanks_of_kind hws' hc, hc, bind, Except.bind, pure, Except.pure]
  | @Arguments.more c ws ws' ts ts' rest _ es hws ha hws' hc has => by
      have hlt := ha.length_lt
      simp only [List.length_append, List.length_cons] at hf hlt
      obtain ⟨fuel, rfl⟩ := Nat.exists_eq_succ_of_ne_zero (show fuel ≠ 0 by omega)
      have harg := ha.complete fuel (by omega)
      have hmore := (has.complete fuel (by omega)).2
      rw [parseArguments, skipBlanks_of_argument hws ha, harg]
      refine ⟨startsClosing_of_argument ha, ?_⟩
      simp [skipBlanks_of_kind hws' hc, hc, hmore, bind, Except.bind, pure, Except.pure]

end

/-! ### Programs -/

lemma mergeTexts_joined {s t : String} {items es : List Node}
    (h : mergeTexts items = .text t :: es) :
    mergeTexts (.text s :: items) = .text (s ++ t) :: es := by
  simp [mergeTexts, h]

lemma mergeTexts_text {s : String} {items : List Node}
    (h : ∀ e ∈ (mergeTexts items).head?, ¬ e.isText) :
    mergeTexts (.text s :: items) = .text s :: mergeTexts items := by
  rw [mergeTexts]
  split
  · next t more heq => simp [heq, Node.isText] at h
  · rfl

lemma exists_text_of_head {es : List Node} (h : ¬ ∀ e ∈ es.head?, ¬ e.isText) :
    ∃ s more, es = .text s :: more := by
  cases es with
  | nil => simp at h
  | cons e more => cases e <;> simp_all [Node.isText]

lemma mergeTexts_of_ne_text {e : Node} (he : ¬ e.isText) (items : List Node) :
    mergeTexts (e :: items) = e :: mergeTexts items := by
  cases e with
  | text s => simp [Node.isText] at he
  | _ => rfl

lemma Call.not_isText {ts rest : List Token} {e : Node} (h : Call ts e rest) : ¬ e.isText := by
  obtain ⟨_, _, _, _, rfl, -, -⟩ := h.source
  simp [Node.isText]

lemma Call.length_lt {ts rest : List Token} {e : Node} (h : Call ts e rest) :
    rest.length < ts.length := (Argument.call h).length_lt

/-- What the parser reads as the items of a program is a program. -/
lemma program_of_parseItems {ending : Token} {fuel : ℕ} {ts : List Token} {items : List Node}
    (hf : ts.length ≤ fuel) (h : parseItems ending fuel ts = .ok items) :
    Program ts (mergeTexts items) := by
  induction fuel generalizing ts items with
  | zero =>
      obtain rfl := List.eq_nil_of_length_eq_zero (Nat.le_zero.mp hf)
      simp only [parseItems, Except.ok.injEq] at h
      subst h
      exact .done
  | succ fuel ih =>
      cases ts with
      | nil =>
          simp only [parseItems, Except.ok.injEq] at h
          subst h
          exact .done
      | cons t rest =>
          simp only [List.length_cons] at hf
          rw [parseItems] at h
          split at h
          · next hcall =>
              simp only [Bool.and_eq_true, beq_iff_eq] at hcall
              obtain ⟨o, rest', rfl, ho⟩ := startsOpening_eq_true hcall.2
              obtain ⟨⟨e, after⟩, he, h⟩ := except_bind_eq_ok.mp h
              obtain ⟨es, hes, h⟩ := except_bind_eq_ok.mp h
              simp only [pure, Except.pure, Except.ok.injEq] at h
              subst h
              have hc : Call (t :: o :: rest') e after := (sound ending _).call hcall.1 ho he
              have hlt := hc.length_lt
              simp only [List.length_cons] at hf hlt
              rw [mergeTexts_of_ne_text hc.not_isText]
              exact .call hc (ih (by omega) hes)
          · next hcall =>
              simp only [Bool.and_eq_true, beq_iff_eq] at hcall
              obtain ⟨es, hes, h⟩ := except_bind_eq_ok.mp h
              simp only [pure, Except.pure, Except.ok.injEq] at h
              have hprog : Program rest (mergeTexts es) := ih (by omega) hes
              split at h
              · next ht =>
                  subst h
                  exact .number (by simpa using ht) hprog
              · next ht =>
                  subst h
                  simp only [beq_iff_eq] at ht
                  by_cases htext : ∀ e ∈ (mergeTexts es).head?, ¬ e.isText
                  · rw [mergeTexts_text htext]
                    exact .text ht hcall hprog htext
                  · obtain ⟨s, more, heq⟩ := exists_text_of_head htext
                    rw [mergeTexts_joined heq]
                    exact .joined ht hcall (heq ▸ hprog)

/-- The items of a program are read by the parser. -/
lemma Program.complete {ts : List Token} {es : List Node} (h : Program ts es) (ending : Token)
    (fuel : ℕ) (hf : ts.length ≤ fuel) :
    ∃ items, parseItems ending fuel ts = .ok items ∧ mergeTexts items = es := by
  induction h generalizing fuel with
  | done => exact ⟨[], by cases fuel <;> rfl, rfl⟩
  | @call ts rest e es hc _ ih =>
      obtain ⟨w, o, ts', rfl, hw, ho⟩ := hc.head
      have hlt := hc.length_lt
      simp only [List.length_cons] at hf hlt
      obtain ⟨fuel, rfl⟩ := Nat.exists_eq_succ_of_ne_zero (show fuel ≠ 0 by omega)
      obtain ⟨items, hitems, hes⟩ := ih fuel (by omega)
      have hcall : parseCall ending (3 * (ts'.length + 1) + 3) w ts' = .ok (e, rest) :=
        hc.complete w o ts' rfl _ (by omega)
      refine ⟨e :: items, ?_, by rw [mergeTexts_of_ne_text hc.not_isText, hes]⟩
      rw [parseItems]
      simp [hw, startsOpening, ho, hcall, hitems, bind, Except.bind, pure, Except.pure]
  | @number t rest es ht _ ih =>
      simp only [List.length_cons] at hf
      obtain ⟨fuel, rfl⟩ := Nat.exists_eq_succ_of_ne_zero (show fuel ≠ 0 by omega)
      obtain ⟨items, hitems, hes⟩ := ih fuel (by omega)
      have hmerge : mergeTexts (.number t.text :: items) = .number t.text :: es := by
        rw [mergeTexts_of_ne_text (by simp [Node.isText]), hes]
      refine ⟨.number t.text :: items, ?_, hmerge⟩
      rw [parseItems]
      simp [ht, hitems, bind, Except.bind, pure, Except.pure]
  | @text t rest es ht hcall _ hn ih =>
      simp only [List.length_cons] at hf
      obtain ⟨fuel, rfl⟩ := Nat.exists_eq_succ_of_ne_zero (show fuel ≠ 0 by omega)
      obtain ⟨items, hitems, rfl⟩ := ih fuel (by omega)
      refine ⟨.text t.text :: items, ?_, mergeTexts_text hn⟩
      rw [parseItems]
      simp [ht, hcall, hitems, bind, Except.bind, pure, Except.pure]
  | @joined t rest s es ht hcall _ ih =>
      simp only [List.length_cons] at hf
      obtain ⟨fuel, rfl⟩ := Nat.exists_eq_succ_of_ne_zero (show fuel ≠ 0 by omega)
      obtain ⟨items, hitems, hes⟩ := ih fuel (by omega)
      refine ⟨.text t.text :: items, ?_, mergeTexts_joined hes⟩
      rw [parseItems]
      simp [ht, hcall, hitems, bind, Except.bind, pure, Except.pure]

/-! ### Lists of tokens with their final mark -/

/-- A list of tokens that ends with the final mark, and has no other, is parsed without it. -/
lemma parse?_append {body : List Token} {last : Token} (hlast : last.kind = .ending)
    (hbody : ∀ t ∈ body, t.kind ≠ .ending) :
    parse? (body ++ [last]) = some (parseBody last body) := by
  have htake : (body ++ [last]).takeWhile (fun t => !(t.kind == .ending)) = body := by
    rw [List.takeWhile_append_of_pos (by simpa using hbody)]
    simp [hlast]
  have hfind : (body ++ [last]).find? (fun t => t.kind == .ending) = some last := by
    rw [List.find?_append, List.find?_eq_none.mpr (by simpa using hbody)]
    simp [hlast]
  simp [parse?, hlast, htake, hfind]

lemma parseBody_eq_ok_iff {ending : Token} {ts : List Token} {es : List Node} :
    parseBody ending ts = .ok es ↔ Program ts es := by
  rw [parseBody, except_map_eq_ok]
  constructor
  · rintro ⟨items, hitems, rfl⟩
    exact program_of_parseItems le_rfl hitems
  · exact fun h => h.complete ending ts.length le_rfl

end Grammar

/-- **The parser accepts exactly the grammar.**  A list of tokens that ends with the final mark, and
has no other, is parsed to the expressions that the grammar derives from it, and if it derives none
there is an error. -/
theorem parse_iff_program {body : List Token} {last : Token} (hlast : last.kind = .ending)
    (hbody : ∀ t ∈ body, t.kind ≠ .ending) :
    (∀ es, parse? (body ++ [last]) = some (.ok es) ↔ Grammar.Program body es) ∧
      ((¬ ∃ es, Grammar.Program body es) →
        ∃ e : ParseError, parse? (body ++ [last]) = some (.error e)) := by
  have hiff : ∀ es, parse? (body ++ [last]) = some (.ok es) ↔ Grammar.Program body es := by
    intro es
    rw [Grammar.parse?_append hlast hbody, Option.some.injEq, Grammar.parseBody_eq_ok_iff]
  refine ⟨hiff, fun hnone => ?_⟩
  rw [Grammar.parse?_append hlast hbody]
  cases hp : parseBody last body with
  | error e => exact ⟨e, rfl⟩
  | ok es => exact absurd ⟨es, Grammar.parseBody_eq_ok_iff.mp hp⟩ hnone

/-- A group, a call word that is not called, and free text after the call. -/
theorem parse_iff_program_nested :
    let body : List Token := [⟨.call, "@F", 0⟩, ⟨.opening, "(", 2⟩, ⟨.opening, "(", 3⟩,
      ⟨.text, "a", 4⟩, ⟨.closing, ")", 5⟩, ⟨.text, " ", 6⟩, ⟨.comma, ",", 7⟩, ⟨.call, "@g", 8⟩,
      ⟨.closing, ")", 10⟩, ⟨.text, "!", 11⟩, ⟨.text, " ", 12⟩]
    let last : Token := ⟨.ending, "", 13⟩
    let es : List Node := [.call "f" "@F" [.ident "a", .text "@g"], .text "! "]
    last.kind = .ending ∧ (∀ t ∈ body, t.kind ≠ .ending) ∧ parse? (body ++ [last]) = some (.ok es) ∧
      Grammar.Program body es := by
  intro body last es
  have hbody : ∀ t ∈ body, t.kind ≠ .ending := by decide
  have hparse : parse? (body ++ [last]) = some (.ok es) := by rfl
  exact ⟨rfl, hbody, hparse, ((parse_iff_program rfl hbody).1 es).mp hparse⟩

end Sigil
