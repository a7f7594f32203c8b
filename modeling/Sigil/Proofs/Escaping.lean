/-
# Escaped texts

An escape is a backslash that takes the next character with it, so an escaped text cannot leave the
quotes that it is put between: the scanner reads it as one string, whatever was escaped.

Unescaping does not go all the way back.  It knows every escape but that of the backslash, so where
a backslash was escaped the text comes back with both of them, or the second one is taken for the
start of an escape that was never written.  Texts without backslashes come back, and no others do.
-/
import Sigil.Library.Standard
import Sigil.Proofs.QuotedArguments

namespace Sigil.Library

/-! ### One character at a time -/

@[simp] lemma escape_nil : escape [] = [] := rfl

@[simp] lemma escape_cons (c : Char) (s : List Char) :
    escape (c :: s) = (escapeOf? c).getD [c] ++ escape s := by
  simp [escape]

@[simp] lemma escape_append (s t : List Char) : escape (s ++ t) = escape s ++ escape t := by
  simp [escape]

@[simp] lemma unescape_nil : unescape [] = [] := rfl

lemma unescape_cons {c : Char} (hc : c ≠ '\\') (s : List Char) :
    unescape (c :: s) = c :: unescape s := by
  rw [unescape] <;> simp [hc]

/-- The first of two backslashes is not the start of an escape. -/
@[simp] lemma unescape_backslashes (s : List Char) :
    unescape ('\\' :: '\\' :: s) = '\\' :: unescape ('\\' :: s) := by
  rw [unescape] <;> simp

/-- Unescaping reads what a character is escaped as back, unless that is the backslash. -/
lemma unescape_escapeOf {c : Char} (hc : c ≠ '\\') (s : List Char) :
    unescape ((escapeOf? c).getD [c] ++ s) = c :: unescape s := by
  unfold escapeOf?
  split
  case h_3 => exact absurd rfl hc
  case h_8 => exact unescape_cons hc s
  all_goals simp [unescape]

/-- Within quotes every escape leaves the rest of the text as it is. -/
lemma staysQuoted_escapeOf (c : Char) (s : List Char) :
    staysQuoted ((escapeOf? c).getD [c] ++ s) = staysQuoted s := by
  unfold escapeOf?
  split
  case h_8 hquote hslash _ _ _ _ =>
    rw [Option.getD_none, List.singleton_append]
    exact staysQuoted_cons (by simpa using hslash) (by simpa using hquote) s
  all_goals simp [staysQuoted]

/-! ### There and back -/

/-- Texts without backslashes are read back, whatever follows. -/
lemma unescape_escape_append {s : List Char} (h : '\\' ∉ s) (t : List Char) :
    unescape (escape s ++ t) = s ++ unescape t := by
  induction s with
  | nil => rfl
  | cons c s ih =>
      have hc : c ≠ '\\' := fun heq => h (heq ▸ List.mem_cons_self)
      have hs : '\\' ∉ s := fun hmem => h (List.mem_cons_of_mem c hmem)
      rw [escape_cons, List.append_assoc, unescape_escapeOf hc, ih hs, List.cons_append]

/-- After one more backslash the first character is not read back. -/
lemma head?_unescape_escapeOf {c : Char} (hc : c ≠ '\\') (s : List Char) :
    (unescape ('\\' :: ((escapeOf? c).getD [c] ++ s))).head? ≠ some c := by
  have hbackslash (t : List Char) : (unescape ('\\' :: '\\' :: t)).head? ≠ some c := by
    rw [unescape_backslashes, List.head?_cons]
    exact fun h => hc (Option.some.inj h).symm
  cases hescape : escapeOf? c with
  | some e =>
      -- the escape begins with a backslash of its own
      obtain ⟨t, rfl⟩ : ∃ t, e = '\\' :: t := by
        unfold escapeOf? at hescape
        split at hescape
        case h_8 => cases hescape
        all_goals exact ⟨_, (Option.some.inj hescape).symm⟩
      exact hbackslash (t ++ s)
  | none =>
      -- a bare character is kept after its backslash, or both are read as a line end
      rw [Option.getD_none, List.singleton_append]
      unfold unescape
      split <;> simp_all [escapeOf?, eq_comm]

/-- With more backslashes before it, an escaped text is not read back. -/
lemma backslashes_unescape_ne (n : ℕ) (s : List Char) :
    List.replicate n '\\' ++ unescape ('\\' :: escape s) ≠ s := by
  induction s generalizing n with
  | nil => simp [unescape]
  | cons c s ih =>
      intro h
      by_cases hc : c = '\\'
      · subst hc
        have hrest : List.replicate n '\\' ++ unescape ('\\' :: escape ('\\' :: s)) =
            '\\' :: (List.replicate (n + 1) '\\' ++ unescape ('\\' :: escape s)) := by
          have hescape : escape ('\\' :: s) = '\\' :: '\\' :: escape s := rfl
          rw [hescape, unescape_backslashes, unescape_backslashes, List.replicate_succ',
            List.append_assoc, ← List.cons_append, ← List.replicate_succ, List.replicate_succ',
            List.append_assoc]
          rfl
        rw [hrest] at h
        exact ih (n + 1) (List.cons.inj h).2
      · have hhead := congrArg List.head? h
        cases n with
        | zero => exact head?_unescape_escapeOf hc (escape s) (by simpa using hhead)
        | succ n => exact hc (by simpa [List.replicate_succ, eq_comm] using hhead)

/-- Unescaping undoes escaping on the texts without backslashes, and on no others. -/
lemma unescape_escape {s : List Char} : unescape (escape s) = s ↔ '\\' ∉ s := by
  constructor
  · intro h hmem
    obtain ⟨before, after, hs, hbefore⟩ := List.eq_append_cons_of_mem hmem
    have hescape : escape s = escape before ++ '\\' :: '\\' :: escape after := by
      rw [hs, escape_append]
      rfl
    -- what stands before the first backslash is read back, so the rest would be too
    rw [hescape, unescape_escape_append hbefore, unescape_backslashes, hs] at h
    have hafter := List.append_cancel_left h
    exact backslashes_unescape_ne 0 after (List.cons.inj hafter).2
  · intro h
    simpa using unescape_escape_append h []

/-! ### Escaped and unescaped parameters -/

/-- The escaped form of a text. -/
def escapedText (s : String) : String := String.ofList (escape s.toList)

@[simp] lemma toList_escapedText (s : String) : (escapedText s).toList = escape s.toList := by
  simp [escapedText]

lemma escapeValue_text (s : String) : escapeValue (.text s) = .ok (.text (escapedText s)) := rfl

lemma unescapeValue_text (s : String) :
    unescapeValue (.text s) = .ok (.text (String.ofList (unescape s.toList))) := rfl

/-- The text of the call of a function of the standard library on a quoted key gives this text,
where these parameters are in force. -/
def LooksUp (function key : String) (params : Entries) (text : String) : Prop :=
  ∀ reenter x, ∃ host, (Scope.run ⟨standard, params, reenter⟩ (callOfTexts function [key])).run x =
    some (.ok (.text text), ⟨host, x.frames⟩)

section

variable {f key : String} {params : Entries}

/-- A text under a key is the value that is looked up. -/
lemma lookupParam_text {s : String} (h : Host)
    (hs : Entries.getText? params key = some (.text s)) :
    lookupParam h params (.text key) = .ok (.text s) := by
  have hget : Entries.get? params (.text key) = some (.text s) := hs
  have hkey : lookupKey (.text key) = .ok (.text key) := rfl
  have hhashable : Value.asKey (.text key) = .ok (.text key) := rfl
  have hvalue : (if Value.isBlank (.text s) then .text "" else .text s) = Value.text s := by
    split
    · next hblank =>
        have hempty : s = "" := by simpa [Value.isBlank] using hblank
        rw [hempty]
    · rfl
  simp only [lookupParam, hkey, hhashable, hget, bind, Except.bind, pure, Except.pure, hvalue]

/-- A function of a key and the parameters in force is called in a text of its own. -/
lemma looksUp_of_builtin {b : Builtin} {text : String} (hf : IsWord f)
    (hentry : standard.lookup f = some { b.entry with name := f })
    (hwants : b.signature.wantsParams = true)
    (hbind : b.signature.bind [.text key] true = .ok [.text key])
    (hkey : staysQuoted key.toList)
    (hrun : ∀ h, b.run h params [.text key] = .ok (.text text)) : LooksUp f key params text := by
  intro reenter x
  let sc : Scope := ⟨standard, params, reenter⟩
  let entry : RegistryEntry Callable := { b.entry with name := f }
  have hparse : Parses standard.isName (callOfTexts f [key])
      [.call f ("@" ++ f) (quotedNodes [key])] :=
    parses_callOfTexts hf hentry (by simpa using hkey)
  have hcall : sc.callResult f entry [.text key] x.host = some (.ok (.text text),
      x.host.diagnose (callNote f entry [.text key])) := by
    have hparams : (if entry.wantsParams then some sc.params else none) = some params :=
      if_pos hwants
    rw [Scope.callResult, hparams]
    simp only [Callable.call, entry, Builtin.entry, Builtin.toCallable, ExceptT.run, ExceptT.mk,
      Option.isSome_some, hbind, Option.getD_some, hrun, Except.mapError]
  have hscope : sc.run (callOfTexts f [key]) = Scope.run ⟨standard, params, reenter⟩ _ := rfl
  rw [← hscope, @Scope.run_callOfTexts sc f entry [key] hentry hparse]
  exact ⟨_, congrArg (Option.map _) hcall⟩

end

/-- **Escaping and unescaping.**  Unescaping undoes escaping on the texts without backslashes, and
on no others.  So the escaped form of a parameter without backslashes, bound to a parameter in its
turn, is looked up as the original text by the function that unescapes. -/
theorem unescape_escape_iff :
    (∀ s : String, escapeValue (.text s) >>= unescapeValue = .ok (.text s) ↔ '\\' ∉ s.toList) ∧
      ∀ (key key' s : String) (params params' : Entries),
        staysQuoted key.toList → staysQuoted key'.toList → '\\' ∉ s.toList →
        Entries.getText? params key = some (.text s) →
        Entries.getText? params' key' = some (.text (escapedText s)) →
        LooksUp "gvescape" key params (escapedText s) ∧ LooksUp "gvunescape" key' params' s := by
  refine ⟨fun s => ?_, fun key key' s params params' hkey hkey' hs hparam hparam' => ?_⟩
  · have hback : unescapeValue (.text (escapedText s)) =
        .ok (.text (String.ofList (unescape (escape s.toList)))) := by
      rw [unescapeValue_text, toList_escapedText]
    have hboth : escapeValue (.text s) >>= unescapeValue =
        .ok (.text (String.ofList (unescape (escape s.toList)))) := hback
    rw [hboth, ← unescape_escape, Except.ok.injEq, Value.text.injEq, ← String.toList_inj,
      String.toList_ofList]
  have hword : IsWord "gvescape" := ⟨by decide, List.all_eq_true.mp (by decide)⟩
  have hword' : IsWord "gvunescape" := ⟨by decide, List.all_eq_true.mp (by decide)⟩
  constructor
  · refine looksUp_of_builtin (b := lookups[2]) hword (by cbv) rfl rfl hkey fun h => ?_
    have hrun : lookups[2].run h params [.text key] =
        lookupParam h params (.text key) >>= escapeValue := rfl
    rw [hrun, lookupParam_text h hparam]
    exact escapeValue_text s
  · refine looksUp_of_builtin (b := lookups[3]) hword' (by cbv) rfl rfl hkey' fun h => ?_
    have hrun : lookups[3].run h params' [.text key'] =
        lookupParam h params' (.text key') >>= unescapeValue := rfl
    rw [hrun, lookupParam_text h hparam']
    refine (unescapeValue_text _).trans ?_
    rw [toList_escapedText, unescape_escape.mpr hs, String.ofList_toList]

/-- A text with a quote and a line end goes there and back. -/
theorem unescape_escape_iff_line :
    let s := "it's\r\n"
    let params : Entries := [(.text "k", .text s)]
    let params' : Entries := [(.text "e", .text "it\\'s\\r\\n")]
    escapeValue (.text s) >>= unescapeValue = .ok (.text s) ∧
      Entries.getText? params "k" = some (.text s) ∧
      Entries.getText? params' "e" = some (.text (escapedText s)) ∧
      LooksUp "gvescape" "k" params "it\\'s\\r\\n" ∧ LooksUp "gvunescape" "e" params' s := by
  intro s params params'
  have hclear : '\\' ∉ s.toList := by decide
  have hescaped : escapedText s = "it\\'s\\r\\n" := by decide
  have hparam : Entries.getText? params "k" = some (.text s) := by rfl
  have hparam' : Entries.getText? params' "e" = some (.text (escapedText s)) := by
    rw [hescaped]
    rfl
  obtain ⟨hiff, hlooks⟩ := unescape_escape_iff
  obtain ⟨hlook, hlook'⟩ := hlooks "k" "e" s params params' (by decide) (by decide) hclear hparam
    hparam'
  exact ⟨(hiff s).mpr hclear, hparam, hparam', hescaped ▸ hlook, hlook'⟩

/-- A backslash before the letter of an escape: both are escaped to three characters, the last two
of which are read as a line end. -/
theorem unescape_splits_backslash :
    escapeValue (.text "\\n") = .ok (.text "\\\\n") ∧
      unescapeValue (.text "\\\\n") = .ok (.text "\\\n") ∧
      ¬ ∀ s : String, escapeValue (.text s) >>= unescapeValue = .ok (.text s) := by
  have hescape : escapeValue (.text "\\n") = .ok (.text "\\\\n") := by rfl
  have hunescape : unescapeValue (.text "\\\\n") = .ok (.text "\\\n") := by rfl
  refine ⟨hescape, hunescape, fun h => ?_⟩
  have hback := h "\\n"
  rw [hescape] at hback
  exact absurd (hunescape.symm.trans hback) (by simp)

/-! ### Escaped arguments -/

/-- An escaped text stays between its quotes. -/
lemma staysQuoted_escape (s : List Char) : staysQuoted (escape s) := by
  induction s with
  | nil => rfl
  | cons c s ih => rwa [escape_cons, staysQuoted_escapeOf]

end Sigil.Library

namespace Sigil

section

variable {functions : Functions} {f : String} {entry : RegistryEntry Callable}

/-- An entry that a word names is found under its own name. -/
lemma IsWord.lookup_name (hf : IsWord f) (hentry : functions.lookup f = some entry) :
    functions.lookup entry.name = some entry := by
  obtain ⟨-, -, found, hname, hword⟩ := ((callWord_iff hentry).mpr hf).registered
  have hfound : some entry = some found := (hf.lookup_sigil hentry).symm.trans hword
  rwa [hf.calledName_eq hentry, ← hfound] at hname

/-- The tokens of a call of one quoted text. -/
lemma tokenize_callOfText (hf : IsWord f) (hentry : functions.lookup f = some entry) {s : String}
    (hs : staysQuoted s.toList) :
    tokenize functions.isName (callOfTexts f [s]) = .ok [⟨.call, "@" ++ f, 0⟩,
      ⟨.opening, "(", f.length + 1⟩, ⟨.string, inQuotes s, f.length + 2⟩,
      ⟨.closing, ")", f.length + s.length + 4⟩, ⟨.ending, "", f.length + s.length + 5⟩] := by
  obtain ⟨cs, hcs, hword⟩ := pieceAt?_callWord ((callWord_iff hentry).mpr hf)
    ('\'' :: (s.toList ++ ['\'', ')']))
  obtain rfl : f.toList = cs := by simpa [sigil] using hcs
  have hstring : pieceAt? functions.isName 1 '\'' (s.toList ++ ['\'', ')']) =
      some (.string, '\'' :: (s.toList ++ ['\''])) := pieceAt?_quoted (by simp) hs [')']
  have hchars : (callOfTexts f [s]).toList =
      sigil :: (f.toList ++ '(' :: ('\'' :: (s.toList ++ ['\'', ')']))) := by
    have htext : callOfTexts f [s] = "@" ++ f ++ "(" ++ inQuotes s ++ ")" := rfl
    simp [htext, toList_inQuotes, sigil]
  have hlength : (callOfTexts f [s]).length = f.length + s.length + 5 := by
    rw [← String.length_toList, hchars]
    simp only [List.length_cons, List.length_append, List.length_nil, String.length_toList]
    omega
  rw [tokenize_eq_ok_iff]
  refine ⟨[(.call, sigil :: f.toList), (.opening, ['(']), (.string, '\'' :: (s.toList ++ ['\''])),
    (.closing, [')'])], ?_, ?_⟩
  · rw [hchars]
    exact .piece hword rfl (.piece rfl rfl (.piece hstring (by simp) (.piece rfl rfl .done)))
  · have hquotes : (inQuotes s).toList.length = s.length + 2 := by
      rw [toList_inQuotes, List.length_cons, List.length_append, String.length_toList]
      rfl
    have hclosing : f.length + 1 + 1 + (s.length + 2) = f.length + s.length + 4 := by omega
    simp [place, hlength, ← hcs, ← toList_inQuotes, String.length_toList, hquotes, hclosing]

end

/-- **Escaped arguments.**  Whatever a text holds, its escaped form between quotes is one argument:
the tokens of the call are the call word, the parentheses and one string, the call is parsed with
this one argument, and it runs as the function does when it is called once with the escaped text. -/
theorem escaped_argument {functions : Functions} {f : String} {entry : RegistryEntry Callable}
    (hentry : functions.lookup f = some entry) (hf : IsWord f) (params : Entries)
    (reenter : Reentry) (s : String) :
    let sc : Scope := ⟨functions, params, reenter⟩
    let escaped := Library.escapedText s
    let text := callOfTexts f [escaped]
    let tokens : List Token := [⟨.call, "@" ++ f, 0⟩, ⟨.opening, "(", f.length + 1⟩,
      ⟨.string, "'" ++ escaped ++ "'", f.length + 2⟩,
      ⟨.closing, ")", f.length + escaped.length + 4⟩,
      ⟨.ending, "", f.length + escaped.length + 5⟩]
    Library.escapeValue (.text s) = .ok (.text escaped) ∧
      text = "@" ++ f ++ "('" ++ escaped ++ "')" ∧
      tokenize functions.isName text = .ok tokens ∧
      parse? tokens = some (.ok [.call entry.name ("@" ++ f) [.string ("'" ++ escaped ++ "'")]]) ∧
      ∀ x, (sc.run text).run x =
        (sc.callResult entry.name entry [.text escaped] x.host).map fun (r, host) =>
          ((r.map Value.orEmpty).mapError (callFailure entry.name [.text escaped]
            (callFrame entry.name ("@" ++ f) [.text escaped] :: x.frames)), ⟨host, x.frames⟩) := by
  intro sc escaped text tokens
  have hquoted : staysQuoted escaped.toList := by
    rw [Library.toList_escapedText]
    exact Library.staysQuoted_escape s.toList
  have htokens : tokenize functions.isName text = .ok tokens :=
    tokenize_callOfText hf hentry hquoted
  have hparse : Parses functions.isName text
      [.call entry.name ("@" ++ f) (quotedNodes [escaped])] :=
    parses_callOfTexts hf hentry (by simpa using hquoted)
  have htext : text = "@" ++ f ++ "('" ++ escaped ++ "')" := by
    have hcall : text = "@" ++ f ++ "(" ++ inQuotes escaped ++ ")" := rfl
    rw [hcall, ← String.toList_inj]
    simp [toList_inQuotes]
  refine ⟨Library.escapeValue_text s, htext, htokens, ?_,
    Scope.run_callOfTexts (hf.lookup_name hentry) hparse⟩
  obtain ⟨tokens', htokens', hnodes⟩ := hparse
  obtain rfl : tokens = tokens' := Except.ok.inj (htokens.symm.trans htokens')
  exact hnodes

/-- Backslashes before a quote and at the end, a parenthesis, a comma and a call: one argument. -/
theorem escaped_argument_echo :
    let functions : Functions := ⟨[echoing "echo"]⟩
    let s := "\\') , @echo('\\"
    let escaped := "\\\\\\') , @echo(\\'\\\\"
    functions.lookup "Echo" = some (echoing "echo") ∧ IsWord "Echo" ∧
      Library.escapeValue (.text s) = .ok (.text escaped) ∧
      (Scope.run ⟨functions, [], .never⟩ ("@Echo('" ++ escaped ++ "')")).run ⟨Host.blank, []⟩ =
        some (.ok (.list [.text escaped]),
          ⟨{ Host.blank with journal := [.list [.text escaped]] }, []⟩) := by
  intro functions s escaped
  have hecho : functions.lookup "Echo" = some (echoing "echo") := by cbv
  have hword : IsWord "Echo" := ⟨by decide, List.all_eq_true.mp (by decide)⟩
  have hescaped : Library.escapedText s = escaped := by decide
  obtain ⟨hescape, htext, -, -, hrun⟩ := escaped_argument hecho hword [] .never s
  rw [hescaped] at hescape htext hrun
  refine ⟨hecho, hword, hescape, ?_⟩
  have hcall : "@Echo('" ++ escaped ++ "')" = callOfTexts "Echo" [escaped] := htext.symm
  rw [hcall]
  exact (hrun ⟨Host.blank, []⟩).trans rfl

/-- A function is registered under a name with a comma.  The text that should call it with an
escaped text is literal text: it has no string, and nothing is left in the journal. -/
theorem escaped_argument_of_two_words :
    let functions : Functions := ⟨[echoing "a,b"]⟩
    let sc : Scope := ⟨functions, [], .never⟩
    let text := "@a,b('it\\'s')"
    Registry.empty.register "a,b" (echoing "a,b").function false =
        .ok (echoing "a,b", functions) ∧
      Library.escapeValue (.text "it's") = .ok (.text "it\\'s") ∧
      tokenize functions.isName text = .ok [⟨.text, "@a", 0⟩, ⟨.comma, ",", 2⟩, ⟨.text, "b", 3⟩,
        ⟨.opening, "(", 4⟩, ⟨.text, "'it\\'s'", 5⟩, ⟨.closing, ")", 12⟩, ⟨.ending, "", 13⟩] ∧
      (sc.run text).run ⟨Host.blank, []⟩ = some (.ok (.text text), ⟨Host.blank, []⟩) ∧
      sc.callResult "a,b" (echoing "a,b") [.text "it\\'s"] Host.blank =
        some (.ok (.list [.text "it\\'s"]),
          { Host.blank with journal := [.list [.text "it\\'s"]] }) := by
  intro functions sc text
  have hparse : Parses sc.functions.isName text [.text text] := except_map_eq_ok.mp (by cbv)
  refine ⟨by cbv, rfl, by cbv, ?_, rfl⟩
  rw [run_of_parses hparse]
  rfl

end Sigil
