/-
# Registering a function

A further function makes a call word of what was a plain word.  In a text that does not call it no
parenthesis opens after such a word, so the scanner keeps its depth, and the tokens are the same
except for the kind of these words.  The parser takes a call word that is not called for the same
text as the plain word, at the top level and in an argument, and finds fault with neither.  So the
text is parsed as before, or fails as before.
-/
import Sigil.Proofs.Inertness
import Sigil.Proofs.Registration

namespace Sigil

/-! ### Steps that agree -/

/-- Two steps both succeed, with related values, or both fail, with related errors. -/
inductive Agree {ε ε' α β : Type} (E : ε → ε' → Prop) (R : α → β → Prop) :
    Except ε α → Except ε' β → Prop
  | ok {a : α} {b : β} : R a b → Agree E R (.ok a) (.ok b)
  | error {e : ε} {e' : ε'} : E e e' → Agree E R (.error e) (.error e')

section

variable {ε ε' α β γ δ : Type} {E : ε → ε' → Prop} {R : α → β → Prop} {S : γ → δ → Prop}
  {x : Except ε α} {y : Except ε' β}

lemma Agree.bind {f : α → Except ε γ} {g : β → Except ε' δ} (h : Agree E R x y)
    (hfg : ∀ a b, R a b → Agree E S (f a) (g b)) : Agree E S (x >>= f) (y >>= g) := by
  cases h with
  | ok hab => exact hfg _ _ hab
  | error he => exact .error he

lemma Agree.mono {R' : α → β → Prop} (h : Agree E R x y) (hR : ∀ a b, R a b → R' a b) :
    Agree E R' x y := by
  cases h with
  | ok hab => exact .ok (hR _ _ hab)
  | error he => exact .error he

lemma Agree.map {f : α → γ} {g : β → δ} (h : Agree E R x y) (hfg : ∀ a b, R a b → S (f a) (g b)) :
    Agree E S (x.map f) (y.map g) := by
  cases h with
  | ok hab => exact .ok (hfg _ _ hab)
  | error he => exact .error he

end

/-! ### Tokens -/

/-- The tokens are the same, except that some plain words have become call words, none of which a
parenthesis follows. -/
inductive Recast : List Token → List Token → Prop
  | nil : Recast [] []
  | same (t : Token) {ts ts' : List Token} : Recast ts ts' → Recast (t :: ts) (t :: ts')
  | word {t : Token} {ts ts' : List Token} : t.kind = .text → ['@'] <+: t.text.toList →
      startsOpening ts = false → Recast ts ts' → Recast (t :: ts) ({ t with kind := .call } :: ts')

namespace Recast

variable {ts ts' : List Token}

lemma startsOpening_eq (h : Recast ts ts') : startsOpening ts' = startsOpening ts := by
  cases h with
  | nil => rfl
  | same => rfl
  | word hkind => simp [startsOpening, hkind]

lemma startsClosing_eq (h : Recast ts ts') : startsClosing ts' = startsClosing ts := by
  cases h with
  | nil => rfl
  | same => rfl
  | word hkind => simp [startsClosing, hkind]

lemma length_eq (h : Recast ts ts') : ts'.length = ts.length := by
  induction h with
  | nil => rfl
  | same t _ ih => rw [List.length_cons, List.length_cons, ih]
  | word _ _ _ _ ih => rw [List.length_cons, List.length_cons, ih]

lemma drop_one (h : Recast ts ts') : Recast (ts.drop 1) (ts'.drop 1) := by
  cases h with
  | nil => exact .nil
  | same t h => exact h
  | word _ _ _ h => exact h

/-- The final mark is the same. -/
lemma of_snoc {last : Token} (hlast : last.kind ≠ .text) (h : Recast (ts ++ [last]) ts') :
    ∃ us, ts' = us ++ [last] ∧ Recast ts us := by
  induction ts generalizing ts' with
  | nil =>
      cases h with
      | same _ h =>
          cases h
          exact ⟨[], rfl, .nil⟩
      | word hkind => exact absurd hkind hlast
  | cons t ts ih =>
      cases h with
      | same _ h =>
          obtain ⟨us, rfl, hus⟩ := ih h
          exact ⟨t :: us, rfl, .same t hus⟩
      | word hkind hsigil hopen h =>
          obtain ⟨us, rfl, hus⟩ := ih h
          refine ⟨{ t with kind := .call } :: us, rfl, .word hkind hsigil ?_ hus⟩
          cases ts with
          | nil => rfl
          | cons u ts => exact hopen

lemma kind_ne_ending (h : Recast ts ts') (hts : ∀ t ∈ ts, t.kind ≠ .ending) :
    ∀ t ∈ ts', t.kind ≠ .ending := by
  induction h with
  | nil => exact hts
  | same t _ ih =>
      obtain ⟨ht, hts⟩ := List.forall_mem_cons.mp hts
      exact List.forall_mem_cons.mpr ⟨ht, ih hts⟩
  | word _ _ _ _ ih =>
      exact List.forall_mem_cons.mpr ⟨by simp, ih (List.forall_mem_cons.mp hts).2⟩

/-- A word that begins with the sigil is no blank. -/
lemma not_isBlank {t : Token} (h : ['@'] <+: t.text.toList) : ¬ t.isBlank := by
  intro hblank
  simp only [Token.isBlank, Bool.and_eq_true, Bool.or_eq_true, beq_iff_eq] at hblank
  obtain ⟨-, ((htext | htext) | htext) | htext⟩ := hblank <;> simp [htext] at h

lemma skipBlanks (h : Recast ts ts') : Recast (skipBlanks ts) (skipBlanks ts') := by
  unfold Sigil.skipBlanks
  induction h with
  | nil => exact .nil
  | same t h ih =>
      rw [List.dropWhile_cons, List.dropWhile_cons]
      split
      · exact ih
      · exact .same t h
  | @word t ts ts' hkind hsigil hopen h ih =>
      rw [List.dropWhile_cons_of_neg (not_isBlank hsigil),
        List.dropWhile_cons_of_neg (@not_isBlank { t with kind := .call } hsigil)]
      exact .word hkind hsigil hopen h

end Recast

/-! ### Scanning -/

section

variable {isName : String → Bool} {name : String}

/-- The registered names and one more. -/
def extend (isName : String → Bool) (name : String) : String → Bool :=
  fun n => isName n || n == name

lemma isCallWord_extend (w : List Char) : isCallWord (extend isName name) w =
    (isCallWord isName w || isCallWord (· == name) w) := by
  unfold isCallWord extend
  split <;> rfl

lemma pieceAt?_sigil (isName : String → Bool) (depth : ℕ) (s : List Char) :
    pieceAt? isName depth '@' s =
      some (if isCallWord isName ('@' :: s.takeWhile isWordChar) then .call else .text,
        '@' :: s.takeWhile isWordChar) := by
  simp [pieceAt?, isSeparator, structural?, isNumeralDigit]

/-- The piece at the start of the text is the same, or it is a word that becomes a call word, and
no parenthesis follows it. -/
lemma pieceAt?_extend {depth : ℕ} {c : Char} {s : List Char}
    (hfree : Inert (· == name) (c :: s)) :
    pieceAt? (extend isName name) depth c s = pieceAt? isName depth c s ∨
      ∃ word after, c :: s = word ++ after ∧ ['@'] <+: word ∧ after.head? ≠ some '(' ∧
        pieceAt? isName depth c s = some (.text, word) ∧
        pieceAt? (extend isName name) depth c s = some (.call, word) := by
  by_cases hsame : isCallWord (extend isName name) (c :: s.takeWhile isWordChar) =
      isCallWord isName (c :: s.takeWhile isWordChar)
  · left
    simp only [pieceAt?, hsame]
  · right
    obtain ⟨hcall, hword⟩ : isCallWord (· == name) (c :: s.takeWhile isWordChar) ∧
        isCallWord isName (c :: s.takeWhile isWordChar) = false := by
      rw [isCallWord_extend] at hsame
      simpa using hsame
    obtain ⟨q, hq⟩ := sigil_of_isCallWord hcall
    obtain rfl : c = '@' := (List.cons.inj hq).1
    have hsplit : '@' :: s = '@' :: s.takeWhile isWordChar ++ s.dropWhile isWordChar := by simp
    refine ⟨_, _, hsplit, ⟨_, rfl⟩, ?_, ?_, ?_⟩
    · rw [hsplit] at hfree
      exact hfree.head_ne hcall fun d => List.mem_takeWhile_imp
    · rw [pieceAt?_sigil, hword]
      rfl
    · rw [pieceAt?_sigil, isCallWord_extend, hcall, Bool.or_true]
      rfl

/-- The scanner keeps its depth, and what it remembers of the last token unless no parenthesis
follows. -/
lemma ScanState.after_congr {st st' : ScanState} {kind : TokenKind} (hdepth : st'.depth = st.depth)
    (hcall : kind = .opening → st'.afterCall = st.afterCall) :
    st'.after kind = st.after kind := by
  cases kind with
  | opening => simp [ScanState.after, hdepth, hcall rfl]
  | _ => simp [ScanState.after, hdepth]

/-- The scans of a text that does not call the further function.  The invariant is that both stand
at the same depth, and that both have just read a call word, or neither has, if a parenthesis
opens. -/
lemma scanFrom_extend {fuel position : ℕ} {st st' : ScanState} {cs : List Char}
    (hfree : Inert (· == name) cs) (hdepth : st'.depth = st.depth)
    (hcall : cs.head? = some '(' → st'.afterCall = st.afterCall) :
    Agree Eq (fun ts ts' => Recast ts ts' ∧ (startsOpening ts → cs.head? = some '('))
      (scanFrom isName fuel st position cs)
      (scanFrom (extend isName name) fuel st' position cs) := by
  have hending (position : ℕ) (cs : List Char) : Agree (@Eq UnterminatedString)
      (fun ts ts' => Recast ts ts' ∧ (startsOpening ts → cs.head? = some '('))
      (.ok [⟨.ending, "", position⟩]) (.ok [⟨.ending, "", position⟩]) :=
    .ok ⟨.same _ .nil, by simp [startsOpening]⟩
  induction fuel generalizing position st st' cs with
  | zero => exact hending position cs
  | succ fuel ih =>
      cases cs with
      | nil => exact hending position []
      | cons c s =>
          rw [scanFrom, scanFrom, hdepth]
          rcases @pieceAt?_extend isName name st.depth c s hfree with
            hsame | ⟨word, after, hsplit, hsigil, hafter, hpiece, hpiece'⟩
          · -- the piece is the same, and so are the states after it: what they remember of a call
            -- counts only where a parenthesis opens, and there they agree
            rw [hsame]
            cases hp : pieceAt? isName st.depth c s with
            | none => exact .error rfl
            | some piece =>
                obtain ⟨kind, p⟩ := piece
                have hopening (hkind : kind = .opening) : c = '(' := by
                  subst hkind
                  exact (pieceAt?_form hp).opening
                have hstate : st'.after kind = st.after kind :=
                  ScanState.after_congr hdepth fun hkind => hcall (by rw [hopening hkind]; rfl)
                obtain ⟨q, rfl, u, rfl⟩ := (pieceAt?_form hp).start
                rw [← List.cons_append] at hfree ⊢
                dsimp only
                rw [List.drop_left, hstate]
                refine (ih hfree.of_append rfl fun _ => rfl).bind fun ts ts' h => ?_
                refine .ok ⟨.same _ h.1, fun hopen => ?_⟩
                rw [hopening (by simpa [startsOpening] using hopen)]
                rfl
          · -- one scan has read a call word and the other has not, but no parenthesis opens next
            rw [hpiece, hpiece', hsplit]
            dsimp only
            rw [List.drop_left]
            rw [hsplit] at hfree
            have hrest := @ih (position + word.length) (st.after .text) (st'.after .call) after
              hfree.of_append hdepth fun hopen => absurd hopen hafter
            refine hrest.bind fun ts ts' h => ?_
            have hopen : startsOpening ts = false := by
              rw [Bool.eq_false_iff]
              exact fun hopen => hafter (h.2 hopen)
            refine .ok ⟨.word rfl (by rwa [String.toList_ofList]) hopen h.1, ?_⟩
            simp [startsOpening]

/-- The tokens of a text that does not call the further function. -/
lemma tokenize_extend {text : String} (hfree : Inert (· == name) text.toList) :
    Agree Eq Recast (tokenize isName text) (tokenize (extend isName name) text) :=
  (scanFrom_extend hfree rfl fun _ => rfl).mono fun _ _ h => h.1

end

/-! ### Parsing -/

/-- The errors have the same wording. -/
def SameWording (e e' : ParseError) : Prop := e'.message = e.message

/-- What was read is the same, and what remains is the same up to call words that are not called. -/
def ReadAlike {α : Type} (x x' : α × List Token) : Prop := x'.1 = x.1 ∧ Recast x.2 x'.2

lemma expectClose_alike (ending : Token) {ts ts' : List Token} (h : Recast ts ts') :
    Agree SameWording Recast (expectClose ending ts) (expectClose ending ts') := by
  cases h with
  | nil => exact .error rfl
  | same t h =>
      rw [expectClose, expectClose]
      split
      · exact .ok h
      · exact .error rfl
  | word hkind _ _ h =>
      rw [expectClose, expectClose]
      simp only [hkind]
      exact .error rfl

/-- A word that begins with the sigil is no bare name. -/
lemma wordNode_of_sigil {w : String} (h : ['@'] <+: w.toList) : wordNode w = .text w := by
  obtain ⟨cs, hcs⟩ := h
  have hname : isBareName w = false := by
    rw [isBareName, ← hcs]
    simp [isNameStart, Char.isAlpha, Char.isUpper, Char.isLower]
  rw [wordNode, hname]
  rfl

/-- To a depth, the parser reads the same from both lists of tokens, or finds the same fault. -/
structure ReadsAlike (ending : Token) (fuel : ℕ) : Prop where
  /-- Arguments. -/
  argument {ts ts' : List Token} : Recast ts ts' →
    Agree SameWording ReadAlike (parseArgument ending fuel ts) (parseArgument ending fuel ts')
  /-- Calls, from behind the opening parenthesis. -/
  call (w : Token) {ts ts' : List Token} : Recast ts ts' →
    Agree SameWording ReadAlike (parseCall ending fuel w ts) (parseCall ending fuel w ts')
  /-- Lists of arguments. -/
  arguments {ts ts' : List Token} : Recast ts ts' →
    Agree SameWording ReadAlike (parseArguments ending fuel ts) (parseArguments ending fuel ts')

namespace ReadsAlike

variable {ending : Token} {fuel : ℕ} {ts ts' : List Token}

lemma argument_succ (h : ReadsAlike ending fuel) (hts : Recast ts ts') :
    Agree SameWording ReadAlike (parseArgument ending (fuel + 1) ts)
      (parseArgument ending (fuel + 1) ts') := by
  cases hts with
  | nil => exact .error rfl
  | word hkind hsigil hopen hrest =>
      -- a call word that is not called is the same text as the plain word
      rw [parseArgument, parseArgument, hkind]
      simp only [hrest.startsOpening_eq, hopen, wordNode_of_sigil hsigil]
      exact .ok ⟨rfl, hrest⟩
  | @same t us us' hrest =>
      rw [parseArgument, parseArgument]
      cases hkind : t.kind with
      | number => exact .ok ⟨rfl, hrest⟩
      | string => exact .ok ⟨rfl, hrest⟩
      | text => exact .ok ⟨rfl, hrest⟩
      | call =>
          simp only [hrest.startsOpening_eq]
          split
          · exact h.call t hrest.drop_one
          · exact .ok ⟨rfl, hrest⟩
      | opening =>
          simp only [hrest.skipBlanks.startsClosing_eq]
          split
          · exact .error rfl
          · refine (h.argument hrest.skipBlanks).bind ?_
            rintro ⟨inner, after⟩ ⟨_, after'⟩ ⟨rfl, hafter⟩
            exact (expectClose_alike ending hafter.skipBlanks).bind fun _ _ hlast =>
              .ok ⟨rfl, hlast⟩
      | closing => exact .error rfl
      | comma => exact .error rfl
      | ending => exact .error rfl
      | other => exact .error rfl

lemma call_succ (h : ReadsAlike ending fuel) (w : Token) (hts : Recast ts ts') :
    Agree SameWording ReadAlike (parseCall ending (fuel + 1) w ts)
      (parseCall ending (fuel + 1) w ts') := by
  rw [parseCall, parseCall, hts.skipBlanks.startsClosing_eq]
  split
  · exact .ok ⟨rfl, hts.skipBlanks.drop_one⟩
  · refine (h.arguments hts).bind ?_
    rintro ⟨args, last⟩ ⟨_, last'⟩ ⟨rfl, hlast⟩
    exact .ok ⟨rfl, hlast⟩

lemma arguments_succ (h : ReadsAlike ending fuel) (hts : Recast ts ts') :
    Agree SameWording ReadAlike (parseArguments ending (fuel + 1) ts)
      (parseArguments ending (fuel + 1) ts') := by
  rw [parseArguments, parseArguments]
  refine (h.argument hts.skipBlanks).bind ?_
  rintro ⟨arg, after⟩ ⟨_, after'⟩ ⟨rfl, hafter⟩
  have hnext : Recast (skipBlanks after) (skipBlanks after') := hafter.skipBlanks
  dsimp only
  -- the next token decides: no word may stand here, neither a plain one nor a call word
  generalize skipBlanks after = us at hnext ⊢
  generalize skipBlanks after' = us' at hnext ⊢
  cases hnext with
  | nil => exact .error rfl
  | word hkind _ _ hrest =>
      simp only [hkind]
      exact .error rfl
  | same t hrest =>
      dsimp only
      split
      · refine (h.arguments hrest).bind ?_
        rintro ⟨args, last⟩ ⟨_, last'⟩ ⟨rfl, hlast⟩
        exact .ok ⟨rfl, hlast⟩
      · split
        · exact .ok ⟨rfl, hrest⟩
        · exact .error rfl

end ReadsAlike

lemma readsAlike (ending : Token) : ∀ fuel, ReadsAlike ending fuel
  | 0 => ⟨fun _ => .error rfl, fun _ _ _ _ => .error rfl, fun _ => .error rfl⟩
  | fuel + 1 =>
      have ih := readsAlike ending fuel
      ⟨ih.argument_succ, fun w _ _ => ih.call_succ w, ih.arguments_succ⟩

/-- The items at the top level are the same: there, too, a call word that is not called is text. -/
lemma parseItems_alike (ending : Token) {fuel : ℕ} {ts ts' : List Token} (h : Recast ts ts') :
    Agree SameWording Eq (parseItems ending fuel ts) (parseItems ending fuel ts') := by
  induction fuel generalizing ts ts' with
  | zero => exact .ok rfl
  | succ fuel ih =>
      cases h with
      | nil => exact .ok rfl
      | word hkind _ hopen hrest =>
          rw [parseItems, parseItems, hrest.startsOpening_eq, hopen, hkind]
          exact (ih hrest).bind fun _ _ hnodes => .ok (by rw [hnodes]; rfl)
      | same t hrest =>
          rw [parseItems, parseItems, hrest.startsOpening_eq, hrest.length_eq]
          split
          · refine ((readsAlike ending _).call t hrest.drop_one).bind ?_
            rintro ⟨node, after⟩ ⟨_, after'⟩ ⟨rfl, hafter⟩
            exact (ih hafter).bind fun _ _ hnodes => .ok (by rw [hnodes])
          · exact (ih hrest).bind fun _ _ hnodes => .ok (by rw [hnodes])

lemma parseBody_alike (ending : Token) {ts ts' : List Token} (h : Recast ts ts') :
    Agree SameWording Eq (parseBody ending ts) (parseBody ending ts') := by
  rw [parseBody, parseBody, h.length_eq]
  exact (parseItems_alike ending h).map fun _ _ hitems => congrArg mergeTexts hitems

/-! ### Registries -/

/-- A registration adds a name, if it is not there yet. -/
lemma Registry.isName_register {α : Type} {r r' : Registry α} {name : String} {f : α} {wants : Bool}
    {entry : RegistryEntry α} (h : r.register name f wants = .ok (entry, r')) :
    r'.isName = extend r.isName entry.name := by
  obtain ⟨-, -, rfl⟩ := register_eq_ok_iff.mp h
  funext key
  rw [extend, isName, isName, find?, find?_insertEntry]
  by_cases hkey : entry.name = key
  · simp [hkey]
  · simp [hkey, Ne.symm hkey, find?]

/-- What a host is told of a failure: its kind and its wording. -/
def Failure.brief (e : Failure) : String × Option String := (e.kindName, e.message)

/-- **Registration is conservative.**  A text in which a newly registered name is not called is
parsed to the same expressions as before, or fails with an error of the same kind and wording. -/
theorem expressions_register {r r' : Functions} {name : String} {f : Callable} {wants : Bool}
    {entry : RegistryEntry Callable} (hregister : r.register name f wants = .ok (entry, r'))
    {text : String} (hfree : Inert (· == entry.name) text.toList) (params : Entries)
    (reenter : Reentry) :
    (Scope.expressions ⟨r', params, reenter⟩ text).mapError Failure.brief =
      (Scope.expressions ⟨r, params, reenter⟩ text).mapError Failure.brief := by
  have htokens : Agree Eq Recast (tokenize r.isName text) (tokenize r'.isName text) :=
    Registry.isName_register hregister ▸ tokenize_extend hfree
  simp only [Scope.expressions]
  cases hts : tokenize r.isName text with
  | error e =>
      rw [hts] at htokens
      generalize tokenize r'.isName text = result at htokens
      cases htokens with
      | error he => rw [he]
  | ok tokens =>
      obtain ⟨ps, hcut, rfl⟩ := tokenize_eq_ok_iff.mp hts
      rw [hts] at htokens
      generalize tokenize r'.isName text = result at htokens
      cases htokens with
      | ok hrecast =>
          obtain ⟨us, rfl, hus⟩ := hrecast.of_snoc (by simp)
          have hbody := parseBody_alike ⟨.ending, "", text.length⟩ hus
          dsimp only
          rw [Grammar.parse?_append rfl hcut.kind_ne_ending,
            Grammar.parse?_append rfl (hus.kind_ne_ending hcut.kind_ne_ending)]
          generalize parseBody ⟨.ending, "", text.length⟩ (place 0 ps) = result at hbody ⊢
          generalize parseBody ⟨.ending, "", text.length⟩ us = result' at hbody ⊢
          cases hbody with
          | ok hnodes => rw [hnodes]
          | error hwording =>
              simp only [Except.mapError, Failure.brief, Failure.message, Failure.kindName]
              rw [hwording]

/-- A new name stands uncalled at the top level and in an argument, and before a number that has no
comma in front. -/
theorem expressions_register_uncalled :
    let r : Functions := ⟨[⟨"list", .forEach, false⟩]⟩
    let r' : Functions := ⟨[⟨"list", .forEach, false⟩, ⟨"x", .forEach, false⟩]⟩
    r.register "@X" .forEach false = .ok (⟨"x", .forEach, false⟩, r') ∧
      Inert (· == "x") "@x @list(@x, (1))".toList ∧ Inert (· == "x") "@list(@x 1)".toList ∧
      (Scope.expressions ⟨r', [], .never⟩ "@x @list(@x, (1))").mapError Failure.brief =
        .ok [.text "@x ", .call "list" "@list" [.text "@x", .number "1"]] ∧
      (Scope.expressions ⟨r', [], .never⟩ "@list(@x 1)").mapError Failure.brief =
        .error ("IsletSyntaxError", some "Expected closing parenthesis ')': '1'") := by
  intro r r'
  have hregister : r.register "@X" .forEach false = .ok (⟨"x", .forEach, false⟩, r') := by cbv
  have hfree : Inert (· == "x") "@x @list(@x, (1))".toList := by decide +kernel
  have hfree' : Inert (· == "x") "@list(@x 1)".toList := by decide +kernel
  have hparse : Parses r.isName "@x @list(@x, (1))"
      [.text "@x ", .call "list" "@list" [.text "@x", .number "1"]] :=
    except_map_eq_ok.mp (by cbv)
  obtain ⟨tokens, htokens, herror⟩ : ∃ tokens, tokenize r.isName "@list(@x 1)" = .ok tokens ∧
      parse? tokens = some (.error (.expectedClose ⟨.number, "1", 9⟩)) :=
    except_map_eq_ok.mp (by cbv)
  have hwording : (ParseError.expectedClose ⟨.number, "1", 9⟩).message =
      "Expected closing parenthesis ')': '1'" := by decide +kernel
  refine ⟨hregister, hfree, hfree', ?_, ?_⟩
  · rw [expressions_register hregister hfree, expressions_eq_ok_iff.mpr hparse]
    rfl
  · rw [expressions_register hregister hfree']
    simp only [Scope.expressions, htokens, herror, Except.mapError, Failure.brief]
    rw [← hwording]
    rfl

end Sigil
