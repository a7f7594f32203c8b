/-
# Quoted arguments

Between single quotes a text is one argument, whatever it contains, unless a quote in it closes the
string or its last backslash takes the closing quote with it.  So a function may be called with any
such texts by quoting them, and gets them as they are.  Only the name of the function has to be one
word, since the scanner ends a call word at the first character that is no part of a word.
-/
import Sigil.Proofs.Isolation
import Sigil.Proofs.Printing
import Sigil.Proofs.RegisteredCalls
import Sigil.Proofs.Tiling

namespace Sigil

/-! ### Quotes around a text -/

/-- A scan from left to right, in which a backslash takes the next character with it, meets no quote
and does not end with a backslash that takes nothing. -/
def staysQuoted : List Char → Bool
  | [] => true
  | ['\\'] => false
  | '\\' :: _ :: rest => staysQuoted rest
  | c :: rest => c != '\'' && staysQuoted rest

/-- A character that is no backslash and no quote does not matter. -/
lemma staysQuoted_cons {c : Char} (hc : c ≠ '\\') (hquote : c ≠ '\'') (s : List Char) :
    staysQuoted (c :: s) = staysQuoted s := by
  rw [staysQuoted]
  · simp [hquote]
  · simp [hc]
  · simp [hc]

/-- The scanner reads such a text up to the quote after it. -/
lemma stringTail?_quoted {s : List Char} (h : staysQuoted s) :
    stringTail? (s ++ ['\'']) = some (s ++ ['\'']) := by
  fun_induction staysQuoted s with
  | case1 => rfl
  | case2 => simp at h
  | case3 c rest ih =>
      rw [List.cons_append, List.cons_append, stringTail?, ih h]
      rfl
  | case4 c rest hnil hcons ih =>
      obtain ⟨hquote, hrest⟩ : c ≠ '\'' ∧ staysQuoted rest := by simpa using h
      rw [List.cons_append, stringTail?_cons (ne_backslash hnil hcons),
        if_neg (by simpa using hquote), ih hrest]
      rfl

/-- Within parentheses a quote begins the string up to the quote after such a text. -/
lemma pieceAt?_quoted {isName : String → Bool} {depth : ℕ} (hd : depth ≠ 0) {s : List Char}
    (hs : staysQuoted s) (rest : List Char) :
    pieceAt? isName depth '\'' (s ++ '\'' :: rest) = some (.string, '\'' :: (s ++ ['\''])) := by
  have hdepth : depth = 0 ↔ 1 = 0 := by simpa using hd
  have hpiece : pieceAt? isName 1 '\'' (s ++ '\'' :: rest) =
      (stringTail? (s ++ '\'' :: rest)).map fun t => (.string, '\'' :: t) := rfl
  have htail := stringTail?_append_of_some (stringTail?_quoted hs) rest
  rw [List.append_assoc, List.singleton_append] at htail
  rw [pieceAt?_depth fun _ => hdepth, hpiece, htail, Option.map_some]

/-- The scan from left to right tells the texts that stand in the strings that the scanner cuts. -/
theorem staysQuoted_iff {s : List Char} : staysQuoted s ↔ IsStringBody s := by
  constructor
  · intro h
    obtain ⟨body, heq, hbody⟩ := stringTail?_body (stringTail?_quoted h)
    obtain rfl := List.append_cancel_right heq
    exact hbody
  · rintro ⟨hbare, hend⟩
    fun_induction staysQuoted s with
    | case1 => rfl
    | case2 => exact absurd unescaped_nil ((unescaped_concat [] '\\').mp hend rfl)
    | case3 c rest ih =>
        exact ih (fun h => hbare ((hasBareQuote_escape c rest).mpr h))
          ((unescaped_append (unescaped_pair c) rest).mp hend)
    | case4 c rest hnil hcons ih =>
        have hc : c ≠ '\\' := ne_backslash hnil hcons
        have hquote : c ≠ '\'' := by
          rintro rfl
          exact hbare ⟨[], rest, rfl, unescaped_nil⟩
        have hrest := ih (fun h => hbare ((hasBareQuote_cons hc hquote rest).mpr h))
          ((unescaped_append (unescaped_singleton hc) rest).mp hend)
        simpa [hquote] using hrest

/-- A text between single quotes. -/
def inQuotes (s : String) : String := "'" ++ s ++ "'"

lemma toList_inQuotes (s : String) : (inQuotes s).toList = '\'' :: (s.toList ++ ['\'']) := by
  simp [inQuotes]

lemma stripQuotes_inQuotes (s : String) : stripQuotes (.text (inQuotes s)) = .text s := by
  simp [stripQuotes, toList_inQuotes]

/-- A text between quotes is printed and read as one string. -/
lemma printsAs_inQuotes {isName : String → Bool} {s : String} (h : staysQuoted s.toList) :
    PrintsAs isName (.string (inQuotes s)) [(.string, (inQuotes s).toList)] := by
  have hpiece := @pieceAt?_quoted isName 1 (by simp) _ h []
  have hatom : Grammar.Atom .string (String.ofList ('\'' :: (s.toList ++ ['\''])))
      (.string (inQuotes s)) := by
    rw [← toList_inQuotes, String.ofList_toList]
    exact .string
  rw [toList_inQuotes]
  exact printsAs_atom hpiece hatom

/-! ### Calls of quoted arguments -/

/-- The name is one word: a call word can spell it. -/
def IsWord (f : String) : Prop := f ≠ "" ∧ ∀ c ∈ f.toList, isWordChar c

/-- The text that calls a function with quoted arguments. -/
def callOfTexts (f : String) (bodies : List String) : String :=
  "@" ++ f ++ "(" ++ joinWith ", " (bodies.map inQuotes) ++ ")"

/-- The expressions that quoted arguments are. -/
def quotedNodes (bodies : List String) : List Node := bodies.map fun s => .string (inQuotes s)

section

variable {functions : Functions} {f : String} {entry : RegistryEntry Callable}

lemma printAll_quotedNodes (width : Int) (bodies : List String) :
    Node.printAll width (quotedNodes bodies) = .ok (bodies.map inQuotes) := by
  induction bodies with
  | nil => rfl
  | cons s bodies ih =>
      have hcons : quotedNodes (s :: bodies) = .string (inQuotes s) :: quotedNodes bodies := rfl
      rw [hcons, Node.printAll, ih]
      rfl

/-- The text of a call of quoted arguments is the printed form of this call. -/
lemma print_callOfTexts (name : String) (width : Int) (bodies : List String) :
    (Node.call name ("@" ++ f) (quotedNodes bodies)).print width = .ok (callOfTexts f bodies) := by
  have hprint := @print_call name _ ("@" ++ f).toList _ width (by simp)
    (congrArg (Except.map (joinWith ", ")) (printAll_quotedNodes width bodies))
  rwa [String.ofList_toList] at hprint

/-- A name that is one word is not taken apart, so its call word has the name of its entry. -/
lemma IsWord.calledName_eq (hf : IsWord f) (hentry : functions.lookup f = some entry) :
    calledName ("@" ++ f) = entry.name := by
  have hsigil : ¬ ['@'] <+: f.toList := fun h => absurd (hf.2 '@' (h.subset (by simp))) (by decide)
  rw [Registry.name_of_find? hentry, ← String.toList_inj, toList_normalizeName,
    stripSigil_of_not_sigiled hsigil]
  simp [calledName]

/-- With a sigil before it such a name is another spelling of the same entry. -/
lemma IsWord.lookup_sigil (hf : IsWord f) (hentry : functions.lookup f = some entry) :
    functions.lookup ("@" ++ f) = some entry := by
  have hsigiled : Sigiled ("@" ++ f) := ⟨f.toList, by simp⟩
  rw [Registry.lookup, normalizeName_of_sigiled hsigiled, hf.calledName_eq hentry,
    Registry.name_of_find? hentry]
  exact hentry

/-- The scanner cuts a call word for a registered name exactly if the name is one word. -/
lemma callWord_iff (hentry : functions.lookup f = some entry) :
    CallWord functions ("@" ++ f) ↔ IsWord f := by
  have htail : ("@" ++ f).toList = '@' :: f.toList := by simp
  constructor
  · rintro ⟨hword, hchars⟩
    refine ⟨?_, by simpa [htail] using hchars⟩
    -- without a name there is a sigil alone, which is no call word
    rintro rfl
    simp [isCallWord] at hword
  · intro hf
    refine ⟨?_, by simpa [htail] using hf.2⟩
    obtain ⟨c, cs, hcs⟩ : ∃ c cs, f.toList = c :: cs :=
      List.exists_cons_of_ne_nil fun h => hf.1 (String.toList_eq_nil_iff.mp h)
    have hregistered : functions.isName (normalizeName ("@" ++ f)) :=
      Option.isSome_iff_exists.mpr ⟨entry, hf.lookup_sigil hentry⟩
    rwa [htail, hcs, isCallWord, ← hcs, ← htail, String.ofList_toList]

/-- The text of a call of quoted arguments is parsed to the one call of these arguments. -/
lemma parses_callOfTexts (hf : IsWord f) (hentry : functions.lookup f = some entry)
    {bodies : List String} (hbodies : ∀ s ∈ bodies, staysQuoted s.toList) :
    Parses functions.isName (callOfTexts f bodies)
      [.call entry.name ("@" ++ f) (quotedNodes bodies)] := by
  obtain ⟨cs, hcs, hpiece⟩ := pieceAt?_callWord ((callWord_iff hentry).mpr hf) []
  have hargs : ∀ e ∈ quotedNodes bodies, ∃ qs, PrintsAs functions.isName e qs := by
    intro e he
    obtain ⟨s, hs, rfl⟩ := List.mem_map.mp he
    exact ⟨_, printsAs_inQuotes (hbodies s hs)⟩
  -- the text is the printed form of the call, and printed calls are read back
  obtain ⟨ps, hps⟩ : ∃ ps, CallPrintsAs functions.isName
      (.call entry.name ("@" ++ f) (quotedNodes bodies)) ps := by
    obtain ⟨qs, hqs⟩ := exists_callPrintsAs (pieceAt?_alone hpiece) hargs
    rw [← hcs, String.ofList_toList, hf.calledName_eq hentry] at hqs
    exact ⟨_, hqs⟩
  have htext : callOfTexts f bodies = String.ofList (spelling ps) :=
    Except.ok.inj ((print_callOfTexts entry.name 0 bodies).symm.trans (hps.print 0))
  refine parses_call_iff.mpr ⟨ps, ?_, by simpa using hps.call 0 []⟩
  rw [htext, String.toList_ofList]
  simpa using hps.cut ⟨0, false⟩ []

end

/-- What a text consisting of a call gives for the value of the call. -/
def Value.orEmpty : Value → Value
  | .null => .text ""
  | v => v

namespace Scope

variable {sc : Scope} {f : String} {entry : RegistryEntry Callable} {bodies : List String}

/-- The values of quoted arguments are the texts between the quotes. -/
lemma binds_quotedNodes (sc : Scope) (wants : Bool) (bodies : List String) (h : Host) :
    sc.Binds wants (quotedNodes bodies) h (bodies.map .text) h := by
  induction bodies with
  | nil => exact .nil
  | cons s bodies ih =>
      have hvalue : sc.argument wants (.string (inQuotes s)) = pure (.text s) := by
        rw [argument_eval sc fun _ => rfl, evalNode, map_pure, stripQuotes_inQuotes]
      exact .cons (hvalue ▸ Eval.yields_pure _ h) ih

/-- A text that is a call of quoted arguments runs as the function does on these arguments. -/
lemma run_callOfTexts (hentry : sc.functions.lookup entry.name = some entry)
    (hparse : Parses sc.functions.isName (callOfTexts f bodies)
      [.call entry.name ("@" ++ f) (quotedNodes bodies)]) (s : Session) :
    (sc.run (callOfTexts f bodies)).run s =
      (sc.callResult entry.name entry (bodies.map .text) s.host).map fun (r, host) =>
        ((r.map Value.orEmpty).mapError (callFailure entry.name (bodies.map .text)
          (callFrame entry.name ("@" ++ f) (bodies.map .text) :: s.frames)), ⟨host, s.frames⟩) := by
  obtain ⟨h, frames⟩ := s
  have htop : sc.eval [.call entry.name ("@" ++ f) (quotedNodes bodies)] =
      Value.orEmpty <$> sc.evalNode (.call entry.name ("@" ++ f) (quotedNodes bodies)) :=
    eval_singleton sc _
  rw [run_of_parses hparse, htop, Eval.run_map,
    (binds_quotedNodes sc entry.wantsParams bodies h).run_evalNode hentry, Option.map_map]
  refine congrArg (Option.map · _) (funext fun (r, host) => ?_)
  cases r <;> rfl

end Scope

/-- **Quoted arguments.**  A registered function whose name is one word may be called with any texts
between quotes, unless a scan from left to right leaves the quotes: the text of the call is parsed
to one call with one string for each argument, and it runs as the function does when it is called
once with these texts.  A name that is not one word is the spelling of no call in any text. -/
theorem quoted_arguments {functions : Functions} {f : String} {entry : RegistryEntry Callable}
    (hentry : functions.lookup f = some entry) (params : Entries) (reenter : Reentry) :
    (IsWord f → ∀ bodies : List String, (∀ s ∈ bodies, staysQuoted s.toList) →
      let sc : Scope := ⟨functions, params, reenter⟩
      let args := bodies.map Value.text
      Parses functions.isName (callOfTexts f bodies)
          [.call entry.name ("@" ++ f) (quotedNodes bodies)] ∧
        ∀ s, (sc.run (callOfTexts f bodies)).run s =
          (sc.callResult entry.name entry args s.host).map fun (r, host) =>
            ((r.map Value.orEmpty).mapError (callFailure entry.name args
              (callFrame entry.name ("@" ++ f) args :: s.frames)), ⟨host, s.frames⟩)) ∧
    (¬ IsWord f → ∀ text es, Parses functions.isName text es →
      ∀ call ∈ Node.headsAll es, call.2 ≠ "@" ++ f) := by
  constructor
  · intro hf bodies hbodies sc args
    have hparse := parses_callOfTexts hf hentry hbodies
    have hname : functions.lookup entry.name = some entry := by
      obtain ⟨-, -, _, hname, hword⟩ := ((callWord_iff hentry).mpr hf).registered
      rwa [hf.calledName_eq hentry, ← hword, hf.lookup_sigil hentry] at hname
    exact ⟨hparse, Scope.run_callOfTexts hname hparse⟩
  · intro hf text es hes call hcall hspelling
    obtain ⟨hword, -⟩ := hes.allOver.headsAll call hcall
    exact hf ((callWord_iff hentry).mp (hspelling ▸ hword))

/-- A function that gives its arguments and leaves them in the journal. -/
def echoing (name : String) : RegistryEntry Callable where
  name := name
  function := .function fun args _ => ExceptT.mk fun h =>
    (.ok (.list args), { h with journal := h.journal ++ [.list args] })
  wantsParams := false

/-- Arguments with everything that a text may contain, and a name that cannot be spelled. -/
theorem quoted_arguments_echo :
    let functions : Functions := ⟨[echoing "echo", echoing "a b"]⟩
    let bodies := ["a, @echo(1) )", "", "it\\'s", "\\\\"]
    let args := bodies.map Value.text
    callOfTexts "Echo" bodies = "@Echo('a, @echo(1) )', '', 'it\\'s', '\\\\')" ∧
      functions.lookup "Echo" = some (echoing "echo") ∧ IsWord "Echo" ∧
      (∀ s ∈ bodies, staysQuoted s.toList) ∧
      (Scope.run ⟨functions, [], .never⟩ (callOfTexts "Echo" bodies)).run ⟨Host.blank, []⟩ =
        some (.ok (.list args), ⟨{ Host.blank with journal := [.list args] }, []⟩) ∧
      functions.lookup "a b" = some (echoing "a b") ∧ ¬ IsWord "a b" ∧
      ∀ text es, Parses functions.isName text es →
        ∀ call ∈ Node.headsAll es, call.2 ≠ "@" ++ "a b" := by
  intro functions bodies args
  have hecho : functions.lookup "Echo" = some (echoing "echo") := by cbv
  have htwo : functions.lookup "a b" = some (echoing "a b") := by cbv
  have hword : IsWord "Echo" := ⟨by decide, List.all_eq_true.mp (by decide)⟩
  have hwords : ¬ IsWord "a b" := fun h => absurd (h.2 ' ' (by simp)) (by decide)
  have hbodies : ∀ s ∈ bodies, staysQuoted s.toList := List.all_eq_true.mp (by decide)
  have hrun := ((quoted_arguments hecho [] .never).1 hword bodies hbodies).2 ⟨Host.blank, []⟩
  exact ⟨by decide, hecho, hword, hbodies, hrun.trans rfl, htwo, hwords,
    (quoted_arguments htwo [] .never).2 hwords⟩

/-- A function is registered under two words.  The text that should call it is literal text, and
nothing is left in the journal, where a call would have left the argument. -/
theorem quoted_call_of_two_words :
    let functions : Functions := ⟨[echoing "a b"]⟩
    let sc : Scope := ⟨functions, [], .never⟩
    Registry.empty.register "a b" (echoing "a b").function false =
        .ok (echoing "a b", functions) ∧
      staysQuoted "x".toList ∧ callOfTexts "a b" ["x"] = "@a b('x')" ∧
      (sc.run (callOfTexts "a b" ["x"])).run ⟨Host.blank, []⟩ =
        some (.ok (.text "@a b('x')"), ⟨Host.blank, []⟩) ∧
      sc.callResult "a b" (echoing "a b") [.text "x"] Host.blank =
        some (.ok (.list [.text "x"]), { Host.blank with journal := [.list [.text "x"]] }) := by
  intro functions sc
  have htext : callOfTexts "a b" ["x"] = "@a b('x')" := by decide
  have hparse : Parses sc.functions.isName "@a b('x')" [.text "@a b('x')"] :=
    except_map_eq_ok.mp (by cbv)
  refine ⟨by cbv, by decide, htext, ?_, rfl⟩
  rw [htext, run_of_parses hparse]
  rfl

end Sigil
