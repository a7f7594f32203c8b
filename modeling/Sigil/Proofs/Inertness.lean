/-
# Texts in which nothing is called

A registered name is called where it stands as a word behind a sigil and a parenthesis opens right
after it.  A text in which this happens nowhere is inert: whatever quotes, numbers, parentheses and
sigils it holds, it is cut into literal pieces only, and its value is the text itself.

The scanner stays outside of arguments all the way, since a parenthesis is counted there only right
after a call word; so no quote begins a string, and no text fails.  Hence a value whose strings are
inert is interpreted to itself, and nothing is called.
-/
import Sigil.Proofs.Entries
import Sigil.Proofs.Reentry

namespace Sigil

open Eval

/-- The characters that stand in no word. -/
def wordBreaks : List Char := [' ', '\t', '\r', '\n', '(', ')', ',', '@']

/-- No registered name is called: where a parenthesis opens right after a sigil and a word, the
word in lower case is no registered name. -/
def Inert (isName : String → Bool) (cs : List Char) : Prop :=
  ∀ before word after, cs = before ++ '@' :: (word ++ '(' :: after) → word ≠ [] →
    (∀ c ∈ word, c ∉ wordBreaks) → ¬ isName (String.ofList (Text.lower word))

variable {isName : String → Bool}

lemma isWordChar_iff (c : Char) : isWordChar c ↔ c ∉ wordBreaks := by
  have hmark : (structural? c).isNone ↔ c ≠ '(' ∧ c ≠ ')' ∧ c ≠ ',' := by
    unfold structural?
    split <;> simp_all
  simp only [isWordChar, Bool.and_eq_true, hmark, isSeparator, sigil, wordBreaks,
    Bool.not_eq_true', Bool.or_eq_false_iff, beq_eq_false_iff_ne, bne_iff_ne, List.mem_cons,
    List.not_mem_nil, or_false, not_or]
  tauto

lemma isCallWord_sigil {word : List Char} (h : word ≠ []) :
    isCallWord isName (sigil :: word) = isName (String.ofList (Text.lower word)) := by
  cases word with
  | nil => exact absurd rfl h
  | cons c rest => simp [isCallWord, sigil, normalizeName]

lemma Inert.of_append {cs ds : List Char} (h : Inert isName (cs ++ ds)) : Inert isName ds :=
  fun before word after hds => h (cs ++ before) word after (by simp [hds])

lemma inert_of_free {cs : List Char} (h : sigil ∉ cs) : Inert isName cs := by
  rintro before word after rfl
  exact absurd (by simp [sigil]) h

/-- A registered name stands at the start of the text, and a parenthesis opens right after it. -/
def callsAtStart (isName : String → Bool) (cs : List Char) : Bool :=
  !(cs.takeWhile isWordChar).isEmpty && (cs.dropWhile isWordChar).head? == some '(' &&
    isName (String.ofList (Text.lower (cs.takeWhile isWordChar)))

lemma callsAtStart_iff {cs : List Char} :
    callsAtStart isName cs ↔ ∃ word after, cs = word ++ '(' :: after ∧ word ≠ [] ∧
      (∀ c ∈ word, c ∉ wordBreaks) ∧ isName (String.ofList (Text.lower word)) := by
  simp only [callsAtStart, Bool.and_eq_true, Bool.not_eq_true', List.isEmpty_eq_false_iff,
    beq_iff_eq, ← isWordChar_iff]
  constructor
  · rintro ⟨⟨hne, hopen⟩, hname⟩
    obtain ⟨after, hafter⟩ := List.head?_eq_some_iff.mp hopen
    refine ⟨cs.takeWhile isWordChar, after, ?_, hne, fun c => List.mem_takeWhile_imp, hname⟩
    rw [← hafter, List.takeWhile_append_dropWhile]
  · rintro ⟨word, after, rfl, hne, hword, hname⟩
    have hopen : ¬ isWordChar '(' := by decide
    have htake : (word ++ '(' :: after).takeWhile isWordChar = word := by
      rw [List.takeWhile_append_of_pos hword, List.takeWhile_cons_of_neg hopen, List.append_nil]
    have hdrop : (word ++ '(' :: after).dropWhile isWordChar = '(' :: after := by
      rw [List.dropWhile_append_of_pos hword, List.dropWhile_cons_of_neg hopen]
    rw [htake, hdrop]
    exact ⟨⟨hne, rfl⟩, hname⟩

lemma inert_cons {c : Char} {cs : List Char} :
    Inert isName (c :: cs) ↔ ¬ (c = '@' ∧ callsAtStart isName cs) ∧ Inert isName cs := by
  constructor
  · intro h
    refine ⟨?_, @Inert.of_append _ [c] cs h⟩
    rintro ⟨rfl, hcalls⟩
    obtain ⟨word, after, rfl, hne, hword, hname⟩ := callsAtStart_iff.mp hcalls
    exact h [] word after rfl hne hword hname
  · rintro ⟨hstart, hrest⟩ before word after hcs hne hword hname
    cases before with
    | nil =>
        obtain ⟨rfl, rfl⟩ := List.cons.inj hcs
        exact hstart ⟨rfl, callsAtStart_iff.mpr ⟨word, after, rfl, hne, hword, hname⟩⟩
    | cons d before =>
        obtain ⟨rfl, rfl⟩ := List.cons.inj hcs
        exact hrest before word after rfl hne hword hname

/-- Whether a text is inert is told sigil by sigil. -/
instance decidableInert (isName : String → Bool) : (cs : List Char) → Decidable (Inert isName cs)
  | [] => isTrue (by rintro before word after h; simp at h)
  | c :: cs =>
    have := decidableInert isName cs
    decidable_of_iff' _ inert_cons

/-- In an inert text no parenthesis opens right after a call word. -/
lemma Inert.head_ne {p ds : List Char} (h : Inert isName (p ++ ds)) (hp : isCallWord isName p)
    (hword : ∀ c ∈ p.tail, isWordChar c) : ds.head? ≠ some '(' := by
  intro hds
  obtain ⟨after, rfl⟩ := List.head?_eq_some_iff.mp hds
  obtain ⟨word, rfl⟩ := sigil_of_isCallWord hp
  have hne : word ≠ [] := by
    rintro rfl
    simp [isCallWord] at hp
  rw [isCallWord_sigil hne] at hp
  exact h [] word after (by simp [sigil]) hne (fun c hc => (isWordChar_iff c).mp (hword c hc)) hp

/-! ### The pieces of an inert text -/

/-- An inert text is cut from outside of arguments, and none of its pieces is called.  The
invariant is that the scanner stands outside of arguments, and has not just read a call word if a
parenthesis opens. -/
lemma exists_cut_of_inert {cs : List Char} (h : Inert isName cs) {st : ScanState}
    (hd : st.depth = 0) (ha : st.afterCall → cs.head? ≠ some '(') :
    ∃ ps, Cut isName st cs ps [] ∧ Uncalled [] ps ∧
      (startsOpening (place 0 ps ++ []) → cs.head? = some '(') := by
  induction hn : cs.length using Nat.strong_induction_on generalizing cs st with
  | _ n ih =>
      cases cs with
      | nil => exact ⟨[], .done, trivial, by simp [place, startsOpening]⟩
      | cons c s =>
          obtain ⟨kind, p, hp⟩ := exists_pieceAt?_zero isName c s
          have hform := pieceAt?_form hp
          obtain ⟨q, rfl, u, rfl⟩ := hform.start
          rw [← hd] at hp
          rw [← List.cons_append] at h
          have hopening : kind = .opening → c = '(' := by
            rintro rfl
            exact hform.opening
          have hcalled : kind = .call → u.head? ≠ some '(' := by
            rintro rfl
            exact h.head_ne hform.call_word.1 hform.call_word.2
          have hd' : (st.after kind).depth = 0 := by
            cases kind with
            | opening =>
                -- it follows no call word, so it is free text and not counted
                have hfree : st.afterCall = false := by simpa [hopening rfl] using ha
                simp [ScanState.after, hd, hfree]
            | _ => simp [ScanState.after, hd]
          have ha' : (st.after kind).afterCall → u.head? ≠ some '(' := by
            cases kind with
            | call => exact fun _ => hcalled rfl
            | _ => simp [ScanState.after]
          simp only [List.length_cons, List.length_append] at hn
          obtain ⟨ps, hcut, huncalled, hstarts⟩ := ih u.length (by omega) h.of_append hd' ha' rfl
          refine ⟨(kind, c :: q) :: ps, .piece hp (by simp) hcut, ⟨?_, huncalled⟩, ?_⟩
          · rintro ⟨hkind, hopen⟩
            exact hcalled hkind (hstarts hopen)
          · intro hopen
            have hkind : kind = .opening := by simpa [place, startsOpening] using hopen
            simp [hopening hkind]

/-- An inert text is parsed to literals of its characters. -/
lemma Inert.parses {text : String} (h : Inert isName text.toList) :
    ∃ ls, Parses isName text ls ∧ Literals ls text.toList := by
  obtain ⟨ps, hcut, huncalled, -⟩ := @exists_cut_of_inert _ _ h ⟨0, false⟩ rfl (by simp)
  obtain ⟨ls, hls, hprogram⟩ := exists_literals 0 huncalled .done (by simp)
  have hspell : text.toList = spelling ps := by simpa using hcut.spelling_append
  rw [List.append_nil, List.append_nil] at hprogram
  exact ⟨ls, parses_iff.mpr ⟨ps, hcut, hprogram⟩, hspell ▸ hls⟩

/-! ### The value of an inert text -/

lemma eval_ext {α : Type} {x y : Eval α} (h : ∀ s, x.run s = y.run s) : x = y := funext h

/-- Literals have their own characters as value. -/
lemma Literals.eval {ls : List Node} {cs : List Char} (h : Literals ls cs) (sc : Scope) :
    sc.eval ls = pure (.text (String.ofList cs)) := by
  have hjoined : sc.eval (ls ++ []) = .text <$> sc.evalJoined (ls ++ []) :=
    eval_eq_evalJoined h (by simp)
  rw [List.append_nil] at hjoined
  rw [hjoined, ← List.append_nil ls, h.evalJoined, Functor.map_map]
  simp [Scope.evalJoined]

lemma Inert.run_eq {sc : Scope} {text : String} (h : Inert sc.functions.isName text.toList) :
    sc.run text = pure (.text text) := by
  obtain ⟨ls, hparse, hls⟩ := h.parses
  have heval := hls.eval sc
  rw [String.ofList_toList] at heval
  exact eval_ext fun s => by rw [run_of_parses hparse, heval]

lemma Inert.textCalls_eq {functions : Functions} {text : String}
    (h : Inert functions.isName text.toList) : textCalls functions text = [] := by
  obtain ⟨ls, hparse, hls⟩ := h.parses
  rw [textCalls_of_parses hparse, hls.callsAll]

lemma mapFailure_pure {α : Type} (f : Failure → Failure) (a : α) :
    mapFailure f (pure a) = pure a := rfl

/-- A text without a sigil is evaluated to itself, so it does not matter that it is not
evaluated. -/
lemma interpretString_eq (run : Run) (params : Entries) (text : String) :
    run.interpretString params text =
      mapFailure (run.locate text) (Scope.run ⟨run.functions, params, run.reenter⟩ text) := by
  by_cases h : text.toList.contains sigil
  · exact interpretString_of_sigil run params h
  · have hfree : sigil ∉ text.toList := by simpa using h
    rw [interpretString_of_free run params h, Inert.run_eq (inert_of_free hfree), mapFailure_pure]

/-! ### Values whose strings are inert -/

namespace Value

mutual

/-- No mapping inside the value has a key twice. -/
def DistinctKeys : Value → Prop
  | .list items => AllDistinctKeys items
  | .tuple items => AllDistinctKeys items
  | .mapping entries => Entries.Distinct entries ∧ EntriesDistinctKeys entries
  | _ => True

/-- No mapping inside the items has a key twice. -/
def AllDistinctKeys : List Value → Prop
  | [] => True
  | v :: rest => DistinctKeys v ∧ AllDistinctKeys rest

/-- No mapping inside the values of the entries has a key twice. -/
def EntriesDistinctKeys : List (Value × Value) → Prop
  | [] => True
  | (_, v) :: rest => DistinctKeys v ∧ EntriesDistinctKeys rest

end

end Value

section

variable {run : Run} {params : Entries}

lemma interpretString_of_inert {text : String} (h : Inert run.functions.isName text.toList) :
    run.interpretString params text = pure (.text text) := by
  rw [interpretString_eq, Inert.run_eq h, mapFailure_pure]

lemma interpretKey_of_inert {key : Value}
    (h : ∀ slot ∈ key.keySlots, Inert run.functions.isName slot.text.toList) :
    run.interpretKey params key = pure key := by
  cases key with
  | text s =>
      rw [Run.interpretKey, interpretString_of_inert (h ⟨s, true⟩ (List.mem_singleton_self _)),
        pure_bind]
  | _ => rfl

mutual

/-- A value whose strings are inert is interpreted to itself, by recursion on the value. -/
lemma walk_of_inert (v : Value)
    (h : ∀ slot ∈ v.slots, Inert run.functions.isName slot.text.toList) (hv : v.DistinctKeys) :
    run.walk params v = pure v := by
  cases v with
  | text s => exact interpretString_of_inert (h ⟨s, false⟩ (List.mem_singleton_self _))
  | list items => rw [Run.walk, walkItems_of_inert items h hv, map_pure]
  | tuple items => rw [Run.walk, walkItems_of_inert items h hv, map_pure]
  | mapping entries =>
      rw [Run.walk, walkEntries_of_inert entries h hv.2, pure_bind,
        Entries.ofPairs_of_distinct hv.1]
  | _ => rfl

lemma walkItems_of_inert (items : List Value)
    (h : ∀ slot ∈ Value.itemSlots items, Inert run.functions.isName slot.text.toList)
    (hitems : Value.AllDistinctKeys items) : run.walkItems params items = pure items := by
  cases items with
  | nil => rfl
  | cons v rest =>
      simp only [Value.itemSlots, List.mem_append, or_imp, forall_and] at h
      rw [Run.walkItems, walk_of_inert v h.1 hitems.1, pure_bind,
        walkItems_of_inert rest h.2 hitems.2, pure_bind]

lemma walkEntries_of_inert (entries : List (Value × Value))
    (h : ∀ slot ∈ Value.entrySlots entries, Inert run.functions.isName slot.text.toList)
    (hentries : Value.EntriesDistinctKeys entries) :
    run.walkEntries params entries = pure entries := by
  match entries with
  | [] => rfl
  | (key, v) :: rest =>
      simp only [Value.entrySlots, List.mem_append, or_imp, forall_and] at h
      obtain ⟨hv, hkey, hrest⟩ := h
      rw [Run.walkEntries, walk_of_inert v hv hentries.1, pure_bind, interpretKey_of_inert hkey,
        pure_bind, walkEntries_of_inert rest hrest hentries.2, pure_bind]

end

end

/-- **Inert texts.**  An inert text calls nothing, and its value is the text itself, whatever the
parameters; that a text without a sigil is not even evaluated makes no difference.  A value whose
strings are inert is interpreted to itself once its parameters are layered, and nothing happens
beyond the layering. -/
theorem inert_interpretation (functions : Functions) :
    (∀ text, Inert functions.isName text.toList → textCalls functions text = [] ∧
      ∀ params re s, (Scope.run ⟨functions, params, re⟩ text).run s =
        some (.ok (.text text), s)) ∧
    (∀ re chain process params text, let run : Run := ⟨functions, re, chain, process⟩
      run.interpretString params text =
        mapFailure (run.locate text) (Scope.run ⟨functions, params, re⟩ text)) ∧
    (∀ depth (store store' : Globals.Store) (r : Request) options globals params h t,
      r.options = .ok options → options.Unlimited →
      store.enter options r.newGlobals = (.ok globals, store') →
      ((Run.ofLocals functions (reentry functions store' depth) r.locals).layer options r.locals
        globals).run ⟨h, []⟩ = some (.ok params, t) →
      r.value.DistinctKeys → (∀ text ∈ r.value.strings, Inert functions.isName text.toList) →
        Interpreter.interpretTo depth ⟨functions, store⟩ r h =
          (some (.ok r.value, t.host), store')) := by
  refine ⟨fun text htext => ⟨htext.textCalls_eq, fun params re s => ?_⟩,
    fun re chain process params text => interpretString_eq _ params text,
    fun depth store store' r options globals params h t hoptions hoff henter hlayer hkeys hinert =>
      ?_⟩
  · have hrun : Scope.run ⟨functions, params, re⟩ text = pure (.text text) := Inert.run_eq htext
    rw [hrun, run_pure]
  · have hplan : r.plan store = (.ok (.proceed options globals), store') := by
      simp only [Request.plan, hoptions, hoff.tooLarge, henter]
      rfl
    have hslots : ∀ slot ∈ r.value.slots, Inert functions.isName slot.text.toList :=
      fun slot hslot => hinert _ (List.mem_map_of_mem hslot)
    have hwalk : ((Run.ofLocals functions (reentry functions store' depth) r.locals).walk params
        r.value).run t = some (.ok r.value, t) := by
      rw [walk_of_inert r.value hslots hkeys, run_pure]
    have hvalue := @interpretTo_of_walk ⟨functions, store⟩ r options globals params store' depth h
      t t _ hplan hlayer hwalk
    have hstore : (Interpreter.interpretTo depth ⟨functions, store⟩ r h).2 = store' := by
      rw [Interpreter.interpretTo, hplan]
    rw [← hvalue, ← hstore]

/-- A text with a registered name that is not called and a call of a name that is not registered. -/
def uncalledText : String := "it's @list, (@unknown('x')) a@list 1.5"

/-- A value with the text inside and a key that is a registered name. -/
def uncalledValue : Value :=
  .mapping [(.text "@list", .list [.text uncalledText, .int 1]), (.text "b", .tuple [.null])]

/-- The request to interpret the value with a local parameter and a new global value. -/
def uncalledRequest : Request where
  value := uncalledValue
  locals := .mapping [(.text "a", .text "y")]
  newGlobals := .mapping [(.text "g", .text "x")]

/-- Quotes, parentheses, numbers and names that are not called stay as they are, in a text and in a
value; new global values are merged on the way. -/
theorem inert_interpretation_uncalled :
    let s : Session := ⟨Host.blank, []⟩
    Inert listScope.functions.isName uncalledText.toList ∧
      textCalls listScope.functions uncalledText = [] ∧
      (listScope.run uncalledText).run s = some (.ok (.text uncalledText), s) ∧
      (∀ text ∈ uncalledValue.strings, Inert listScope.functions.isName text.toList) ∧
      Interpreter.interpretTo 1 ⟨listScope.functions, ⟨[]⟩⟩ uncalledRequest Host.blank =
        (some (.ok uncalledValue, Host.blank), ⟨[(.text "g", .text "x")]⟩) := by
  intro s
  have htext : Inert listScope.functions.isName uncalledText.toList := by decide +kernel
  have hstrings : ∀ text ∈ uncalledValue.strings, Inert listScope.functions.isName text.toList := by
    decide +kernel
  have hkeys : uncalledValue.DistinctKeys := by
    simp [uncalledValue, Value.DistinctKeys, Value.AllDistinctKeys, Value.EntriesDistinctKeys,
      Entries.Distinct, Value.key]
  have hinert := inert_interpretation listScope.functions
  refine ⟨htext, (hinert.1 _ htext).1, (hinert.1 _ htext).2 _ _ s, hstrings, ?_⟩
  exact hinert.2.2 1 ⟨[]⟩ ⟨[(.text "g", .text "x")]⟩ uncalledRequest .standard
    [(.text "g", .text "x")] [(.text "g", .text "x"), (.text "a", .text "y")] Host.blank s rfl
    Options.unlimited_standard rfl (by cbv) hkeys hstrings

end Sigil
