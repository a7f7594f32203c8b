/-
# Printed strings

A trace shows a text between single quotes, its quotes and backslashes escaped, and if that is too
long, cut and with three dots.  The cut may take an escape apart.  What is left of it is a
backslash, and the first dot goes with this backslash; so the quote after the dots is the one that
ends the string, wherever the scanner reads it as an argument.
-/
import Sigil.Proofs.QuotedArguments

namespace Sigil

/-! ### Escapes and cuts -/

@[simp] lemma escapeQuotes_nil : escapeQuotes [] = [] := rfl

lemma escapeQuotes_escaped {c : Char} (hc : c = '\\' ∨ c = '\'') (s : List Char) :
    escapeQuotes (c :: s) = '\\' :: c :: escapeQuotes s := by
  rcases hc with rfl | rfl <;> rfl

lemma escapeQuotes_plain {c : Char} (hc : ¬ (c = '\\' ∨ c = '\'')) (s : List Char) :
    escapeQuotes (c :: s) = c :: escapeQuotes s := by
  have hplain : ¬ (c == '\\' || c == '\'') := by simpa using hc
  rw [escapeQuotes, List.flatMap_cons, if_neg hplain]
  rfl

/-- An escaped text does not leave the quotes, whatever follows it. -/
lemma staysQuoted_escapeQuotes_append (s t : List Char) :
    staysQuoted (escapeQuotes s ++ t) = staysQuoted t := by
  induction s with
  | nil => rfl
  | cons c s ih =>
      by_cases hc : c = '\\' ∨ c = '\''
      · rw [escapeQuotes_escaped hc, List.cons_append, List.cons_append, staysQuoted, ih]
      · obtain ⟨hslash, hquote⟩ := not_or.mp hc
        rw [escapeQuotes_plain hc, List.cons_append, staysQuoted_cons hslash hquote, ih]

/-- A cut through an escaped text falls between two escapes, or into one after its backslash. -/
lemma exists_take_escapeQuotes (n : ℕ) (s : List Char) :
    ∃ k, (escapeQuotes s).take n = escapeQuotes (s.take k) ∨
      (escapeQuotes s).take n = escapeQuotes (s.take k) ++ ['\\'] := by
  induction s generalizing n with
  | nil => exact ⟨0, .inl (by simp)⟩
  | cons c s ih =>
      by_cases hc : c = '\\' ∨ c = '\''
      · rw [escapeQuotes_escaped hc]
        match n with
        | 0 => exact ⟨0, .inl rfl⟩
        | 1 => exact ⟨0, .inr rfl⟩
        | n + 2 =>
            obtain ⟨k, hk⟩ := ih n
            refine ⟨k + 1, hk.imp (fun h => ?_) fun h => ?_⟩ <;>
              simp [escapeQuotes_escaped hc, h]
      · rw [escapeQuotes_plain hc]
        match n with
        | 0 => exact ⟨0, .inl rfl⟩
        | n + 1 =>
            obtain ⟨k, hk⟩ := ih n
            refine ⟨k + 1, hk.imp (fun h => ?_) fun h => ?_⟩ <;>
              simp [escapeQuotes_plain hc, h]

/-- The text without the backslash of each pair of a backslash and a character. -/
def dropBackslashes : List Char → List Char
  | '\\' :: c :: s => c :: dropBackslashes s
  | c :: s => c :: dropBackslashes s
  | [] => []

lemma dropBackslashes_escapeQuotes (s : List Char) : dropBackslashes (escapeQuotes s) = s := by
  induction s with
  | nil => rfl
  | cons c s ih =>
      by_cases hc : c = '\\' ∨ c = '\''
      · rw [escapeQuotes_escaped hc, dropBackslashes, ih]
      · rw [escapeQuotes_plain hc, dropBackslashes, ih]
        exact fun _ _ hslash => absurd (.inl hslash) hc

/-! ### Printed strings -/

/-- What a text is printed as between its quotes. -/
def printedBody (width : ℤ) (s : String) : String :=
  let text := escapeQuotes s.toList
  String.ofList (if width < text.length then takeTo (width - 3) text ++ "...".toList else text)

lemma sourceString_eq (width : ℤ) (s : String) :
    sourceString width s = inQuotes (printedBody width s) := by
  rw [← String.toList_inj, toList_inQuotes]
  simp only [sourceString, printedBody, String.toList_ofList, List.cons_append]

section

variable {width : ℤ} (hwidth : 3 ≤ width) (s : String)

include hwidth

/-- The dots after a cut are no quotes, and the first one closes an escape that was cut. -/
lemma staysQuoted_printedBody : staysQuoted (printedBody width s).toList := by
  rw [printedBody, String.toList_ofList]
  split
  · rw [takeTo, if_pos (by omega)]
    obtain ⟨k, hk | hk⟩ := exists_take_escapeQuotes (width - 3).toNat s.toList
    · rw [hk, staysQuoted_escapeQuotes_append]
      decide
    · rw [hk, List.append_assoc, staysQuoted_escapeQuotes_append]
      decide
  · have happend := staysQuoted_escapeQuotes_append s.toList []
    rw [List.append_nil] at happend
    rw [happend]
    rfl

lemma length_sourceString_le : (sourceString width s).length ≤ width + 2 := by
  rw [sourceString_eq, ← String.length_toList, toList_inQuotes, printedBody, String.toList_ofList]
  have hdots : "...".toList.length = 3 := rfl
  simp only [List.length_cons, List.length_append, List.length_nil]
  split
  · rw [takeTo, if_pos (by omega), List.length_append, List.length_take, hdots]
    omega
  · omega

end

/-! ### Where an argument may begin -/

section

variable {isName : String → Bool}

/-- After the text, which has these tokens, an argument may begin: it ends within the parentheses of
a call, with a parenthesis that opens, a comma or a blank. -/
structure AwaitsArgument (isName : String → Bool) (before : String) (tokens : List Token) :
    Prop where
  /-- The tokens are those of the text, apart from the final mark. -/
  tokenize : tokenize isName before = .ok (tokens ++ [⟨.ending, "", before.length⟩])
  /-- The parentheses of a call are open. -/
  inside : (ScanState.afterAll ⟨0, false⟩ (tokens.map Token.kind)).depth ≠ 0
  /-- The last token does not belong to an argument. -/
  last : ∃ front t, tokens = front ++ [t] ∧ (t.kind = .opening ∨ t.kind = .comma ∨ t.isBlank)

/-- A parenthesis that opens, a comma or a blank is one character, and the scanner cuts it off
everywhere. -/
lemma exists_mark {depth : ℕ} {c : Char} {s p : List Char} {kind : TokenKind}
    (h : PieceForm isName depth c s kind p) {position : ℕ}
    (hkind : kind = .opening ∨ kind = .comma ∨ (Token.mk kind (String.ofList p) position).isBlank) :
    ∃ x, p = [x] ∧ ¬ isWordChar x ∧ ∀ depth s, pieceAt? isName depth x s = some (kind, [x]) := by
  rcases hkind with rfl | rfl | hblank
  · cases h with
    | mark hk =>
        rcases structural?_kind hk with ⟨rfl, -⟩ | ⟨-, hk'⟩ | ⟨-, hk'⟩
        · exact ⟨'(', rfl, by decide, fun _ _ => rfl⟩
        · cases hk'
        · cases hk'
  · cases h with
    | mark hk =>
        rcases structural?_kind hk with ⟨-, hk'⟩ | ⟨-, hk'⟩ | ⟨rfl, -⟩
        · cases hk'
        · cases hk'
        · exact ⟨',', rfl, by decide, fun _ _ => rfl⟩
  · obtain ⟨rfl, htext⟩ : kind = .text ∧
        (p = [' '] ∨ p = ['\t'] ∨ p = ['\r'] ∨ p = ['\n']) := by
      simpa [Token.isBlank, ← String.toList_inj, or_assoc] using hblank
    rcases htext with rfl | rfl | rfl | rfl
    · exact ⟨' ', rfl, by decide, fun _ _ => rfl⟩
    · exact ⟨'\t', rfl, by decide, fun _ _ => rfl⟩
    · exact ⟨'\r', rfl, by decide, fun _ _ => rfl⟩
    · exact ⟨'\n', rfl, by decide, fun _ _ => rfl⟩

/-- The pieces of a text after which an argument may begin are the same whatever follows. -/
lemma AwaitsArgument.exists_cut {before : String} {tokens : List Token}
    (h : AwaitsArgument isName before tokens) (rest : List Char) :
    ∃ ps, Cut isName ⟨0, false⟩ (before.toList ++ rest) ps rest ∧ spelling ps = before.toList ∧
      place 0 ps = tokens := by
  obtain ⟨ps, hcut, htokens⟩ := tokenize_eq_ok_iff.mp h.tokenize
  obtain ⟨rfl, -⟩ := List.append_inj' htokens rfl
  obtain ⟨front, t, hlast, hkind⟩ := h.last
  obtain ⟨qs, rs, rfl, -, ht⟩ := place_eq_append hlast
  obtain ⟨kind, p, us, rfl, rfl, hus⟩ := place_eq_cons ht.symm
  obtain rfl : us = [] := by
    cases us with
    | nil => rfl
    | cons => simp [place] at hus
  obtain ⟨_, _, _, hform⟩ := hcut.form (kind, p) (by simp)
  obtain ⟨x, rfl, hword, hx⟩ := exists_mark hform hkind
  have hspell : before.toList = spelling (qs ++ [(kind, [x])]) := by
    simpa using hcut.spelling_append
  refine ⟨_, ?_, hspell.symm, rfl⟩
  rw [hspell]
  exact hcut.relocate_mark hword hx rest

/-- Where an argument may begin, a text in quotes is read as one token, and the scanner goes on
after it within the same parentheses. -/
lemma AwaitsArgument.tokenize_append {before : String} {tokens : List Token}
    (h : AwaitsArgument isName before tokens) {body : String} (hbody : staysQuoted body.toList)
    (after : String) :
    Sigil.tokenize isName (before ++ inQuotes body ++ after) =
      (scanFrom isName after.length
        ⟨(ScanState.afterAll ⟨0, false⟩ (tokens.map Token.kind)).depth, false⟩
        (before.length + (inQuotes body).length) after.toList).map fun more =>
          tokens ++ ⟨.string, inQuotes body, before.length⟩ :: more := by
  obtain ⟨ps, hcut, hspell, rfl⟩ := h.exists_cut ((inQuotes body).toList ++ after.toList)
  have hinside := h.inside
  rw [place_kinds] at hinside ⊢
  set st := ScanState.afterAll ⟨0, false⟩ (ps.map Prod.fst)
  have hstring : Cut isName st ((inQuotes body).toList ++ after.toList)
      [(.string, (inQuotes body).toList)] after.toList := by
    rw [toList_inQuotes, List.cons_append, List.append_assoc, List.singleton_append]
    exact .piece (pieceAt?_quoted hinside hbody after.toList) (by simp) .done
  have htext : (before ++ inQuotes body ++ after).toList =
      before.toList ++ ((inQuotes body).toList ++ after.toList) := by simp
  rw [Sigil.tokenize, ← String.length_toList, htext,
    (hcut.append hstring).scanFrom_eq le_rfl]
  simp only [List.map_append, afterAll_append, spelling_append, hspell, place_append, place,
    String.ofList_toList, List.length_append, String.length_toList, Nat.zero_add, spelling_cons,
    spelling_nil, List.append_nil, List.append_assoc, List.singleton_append]
  rfl

end

/-! ### Printed strings as arguments -/

/-- Texts in a call that is printed with its arguments are the strings that they are printed as. -/
lemma sourceItems_texts (width : ℤ) (args : List String) :
    Value.sourceItems width (args.map .text) =
      .ok ((args.map (printedBody width)).map inQuotes) := by
  induction args with
  | nil => rfl
  | cons s args ih =>
      have hs : (Value.text s).source width = .ok (inQuotes (printedBody width s)) :=
        congrArg Except.ok (sourceString_eq width s)
      rw [List.map_cons, Value.sourceItems, hs, ih]
      rfl

lemma sourceCall_texts {f : String} (hf : IsWord f) (width : ℤ) (args : List String) :
    sourceCall width f (args.map .text) = .ok (callOfTexts f (args.map (printedBody width))) := by
  have hsigil : ¬ (f.toList.head? == some '@') := by
    intro h
    have hmem : '@' ∈ f.toList := List.mem_of_mem_head? (by simpa using h)
    exact absurd (hf.2 '@' hmem) (by decide)
  rw [sourceCall, sourceItems_texts, callOfTexts]
  simp only [if_neg hsigil]
  rfl

/-- **Printed strings.**  Whatever a text holds, in a width of at least three it is printed as a
string that is at most by its quotes longer.  Where an argument may begin the scanner reads it as
one token, also if it was cut; if it was not, the text is what is left without the quotes and
without the backslash of each escape.  So a call that is printed with texts as arguments is read as
the call of these strings. -/
theorem printed_strings {width : ℤ} (hwidth : 3 ≤ width) (s : String) :
    (∃ printed, (Value.text s).source width = .ok printed ∧ printed.length ≤ width + 2 ∧
      (∀ isName before tokens, AwaitsArgument isName before tokens → ∀ after,
        tokenize isName (before ++ printed ++ after) =
          (scanFrom isName after.length
            ⟨(ScanState.afterAll ⟨0, false⟩ (tokens.map Token.kind)).depth, false⟩
            (before.length + printed.length) after.toList).map fun more =>
              tokens ++ ⟨.string, printed, before.length⟩ :: more) ∧
      ((escapeQuotes s.toList).length ≤ width → ∃ body, printed = "'" ++ body ++ "'" ∧
        stripQuotes (.text printed) = .text body ∧ dropBackslashes body.toList = s.toList)) ∧
    ∀ (functions : Functions) (f : String) (entry : RegistryEntry Callable),
      functions.lookup f = some entry → IsWord f → ∀ args : List String,
        ∃ text, sourceCall width f (args.map .text) = .ok text ∧
          Parses functions.isName text [.call entry.name ("@" ++ f)
            (args.map fun a => .string (sourceString width a))] := by
  refine ⟨⟨_, rfl, length_sourceString_le hwidth s, fun isName before tokens hbefore after => ?_,
    fun hfits => ⟨printedBody width s, sourceString_eq width s, ?_, ?_⟩⟩,
    fun functions f entry hentry hf args => ⟨_, sourceCall_texts hf width args, ?_⟩⟩
  · rw [sourceString_eq]
    exact hbefore.tokenize_append (staysQuoted_printedBody hwidth s) after
  · rw [sourceString_eq, stripQuotes_inQuotes]
  · rw [printedBody, if_neg (not_lt.mpr hfits), String.toList_ofList, dropBackslashes_escapeQuotes]
  · have hnodes : quotedNodes (args.map (printedBody width)) =
        args.map fun a => .string (sourceString width a) := by
      simp only [quotedNodes, List.map_map, Function.comp_def, sourceString_eq]
    rw [← hnodes]
    refine parses_callOfTexts hf hentry fun body hbody => ?_
    obtain ⟨a, -, rfl⟩ := List.mem_map.mp hbody
    exact staysQuoted_printedBody hwidth a

/-- A text that is cut between a backslash and what it escapes, and printed whole in a greater
width. -/
theorem printed_strings_cut :
    let functions : Functions := ⟨[echoing "f"]⟩
    let s := "ab\\'c"
    (Value.text s).source 6 = .ok "'ab\\...'" ∧
      tokenize functions.isName "@f(1, ('ab\\...'), 'x')" = .ok [⟨.call, "@f", 0⟩,
        ⟨.opening, "(", 2⟩, ⟨.number, "1", 3⟩, ⟨.comma, ",", 4⟩, ⟨.text, " ", 5⟩,
        ⟨.opening, "(", 6⟩, ⟨.string, "'ab\\...'", 7⟩, ⟨.closing, ")", 15⟩, ⟨.comma, ",", 16⟩,
        ⟨.text, " ", 17⟩, ⟨.string, "'x'", 18⟩, ⟨.closing, ")", 21⟩, ⟨.ending, "", 22⟩] ∧
      Parses functions.isName "@f('ab\\...', 'x')"
        [.call "f" "@f" [.string "'ab\\...'", .string "'x'"]] ∧
      (Value.text s).source 7 = .ok "'ab\\\\\\'c'" ∧
      stripQuotes (.text "'ab\\\\\\'c'") = .text "ab\\\\\\'c" ∧
      dropBackslashes "ab\\\\\\'c".toList = s.toList := by
  intro functions s
  have hs : sourceString 6 s = "'ab\\...'" := by decide
  have hx : sourceString 6 "x" = "'x'" := by decide
  have hwhole : sourceString 7 s = "'ab\\\\\\'c'" := by decide
  obtain ⟨⟨printed, hprinted, -, htokens, -⟩, hcalls⟩ := printed_strings (by decide : (3 : ℤ) ≤ 6) s
  obtain rfl : printed = sourceString 6 s := (Except.ok.inj hprinted).symm
  obtain ⟨⟨printed', hprinted', -, -, hback⟩, -⟩ := printed_strings (by decide : (3 : ℤ) ≤ 7) s
  obtain rfl : printed' = sourceString 7 s := (Except.ok.inj hprinted').symm
  rw [hs] at hprinted htokens
  rw [hwhole] at hprinted' hback
  obtain ⟨body, hquotes, hstrip, hdrop⟩ := hback (by decide)
  obtain rfl : body = "ab\\\\\\'c" := by
    have hquoted : stripQuotes (.text (inQuotes body)) =
        stripQuotes (.text (inQuotes "ab\\\\\\'c")) :=
      congrArg (fun t => stripQuotes (.text t)) hquotes.symm
    simpa [stripQuotes_inQuotes] using hquoted
  have hawaits : AwaitsArgument functions.isName "@f(1, (" [⟨.call, "@f", 0⟩, ⟨.opening, "(", 2⟩,
      ⟨.number, "1", 3⟩, ⟨.comma, ",", 4⟩, ⟨.text, " ", 5⟩, ⟨.opening, "(", 6⟩] :=
    ⟨by cbv, by decide, [⟨.call, "@f", 0⟩, ⟨.opening, "(", 2⟩, ⟨.number, "1", 3⟩, ⟨.comma, ",", 4⟩,
      ⟨.text, " ", 5⟩], _, rfl, .inl rfl⟩
  have hword : IsWord "f" := ⟨by decide, List.all_eq_true.mp (by decide)⟩
  obtain ⟨text, htext, hparse⟩ := hcalls functions "f" (echoing "f") (by cbv) hword [s, "x"]
  have hcall : text = "@f('ab\\...', 'x')" :=
    Except.ok.inj ((htext.symm.trans (sourceCall_texts hword 6 [s, "x"])).trans
      (congrArg Except.ok (by decide)))
  simp only [hcall, List.map_cons, List.map_nil, hs, hx] at hparse
  have hread := (htokens _ _ _ hawaits "), 'x')").trans (by cbv)
  exact ⟨hprinted, hread, hparse, hprinted', hstrip, hdrop⟩

end Sigil
