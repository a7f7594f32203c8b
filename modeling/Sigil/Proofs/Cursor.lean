/-
# Parsing with a cursor

The tokens can be read in place, with one cursor that all functions of a parser move.  The cursor
stays where it is before a mark that ends the tokens, and nothing bounds the loops of such a parser,
so it is given fuel for its calls and for the turns of its loops.  With three steps for each token,
or any more, it comes to an end with what the parser of lists gives, before it reads past the last
token and without ever continuing an expression to the right.
-/
import Sigil.Proofs.Parsing

namespace Sigil

namespace CursorParser

/-! ### The parser -/

/-- Why a reading stops. -/
inductive Halt where
  /-- The tokens are refused. -/
  | refused (e : ParseError)
  /-- There is no token at the cursor. -/
  | overrun
  /-- The token continues an expression to the right, which no token may do. -/
  | continued (t : Token)

/-- A reading of tokens from a cursor on: none if it does not come to an end with its fuel. -/
abbrev Reading (α : Type) := StateT ℕ (ExceptT Halt Option) α

/-- The reading that has no fuel left. -/
def exhausted {α : Type} : Reading α := fun _ => ExceptT.mk none

/-- How strongly a token binds the expression on its left. -/
def leftPower : TokenKind → ℕ
  | .comma => 0
  | .closing => 0
  | .ending => 0
  | _ => 0

/-- How strongly a token has to bind to continue an argument. -/
def argumentPower : ℕ := 2

/-- An expression after others, where adjacent texts become one. -/
def joinLast (nodes : List Node) (node : Node) : List Node :=
  match node, nodes.getLast? with
  | .text t, some (.text s) => nodes.dropLast ++ [.text (s ++ t)]
  | _, _ => nodes ++ [node]

variable (tokens : List Token)

/-- The token at the cursor. -/
def peek : Reading Token := do
  match tokens[← get]? with
  | some t => pure t
  | none => throw .overrun

/-- The token at the cursor, which moves on unless the token is a final mark. -/
def advance : Reading Token := do
  let t ← peek tokens
  if t.kind ≠ .ending then modify (· + 1)
  pure t

/-- Moves on over blanks. -/
def skip : ℕ → Reading Unit
  | 0 => exhausted
  | fuel + 1 => do
    if (← peek tokens).isBlank then
      let _ ← advance tokens
      skip fuel

/-- Moves on over a closing parenthesis. -/
def close : Reading Unit := do
  let t ← peek tokens
  if t.kind = .closing then
    let _ ← advance tokens
  else if t.kind = .ending then throw (.refused (.unclosed t))
  else throw (.refused (.expectedClose t))

/-- Continues an expression to the right. -/
def led (t : Token) (_left : Node) : Reading Node := throw (.continued t)

/-- Continues an expression as long as tokens bind it strongly enough. -/
def extend (power : ℕ) : ℕ → Node → Reading Node
  | 0, _ => exhausted
  | fuel + 1, left => do
    if power < leftPower (← peek tokens).kind then
      let t ← advance tokens
      extend power fuel (← led t left)
    else pure left

mutual

/-- An expression. -/
def expression : ℕ → ℕ → Bool → Reading Node
  | 0, _, _ => exhausted
  | fuel + 1, power, inArguments => do
    let t ← advance tokens
    let left ← nud fuel inArguments t
    extend tokens power fuel left

/-- The expression that a token begins. -/
def nud : ℕ → Bool → Token → Reading Node
  | 0, _, _ => exhausted
  | fuel + 1, inArguments, t =>
    match inArguments, t.kind with
    | _, .number => pure (.number t.text)
    | _, .call => do
      if (← peek tokens).kind = .opening then call fuel t else pure (.text t.text)
    | false, _ => pure (.text t.text)
    | true, .string => pure (.string t.text)
    | true, .text => pure (wordNode t.text)
    | true, .opening => group fuel t
    | true, .ending => throw (.refused (.unclosed t))
    | true, _ => throw (.refused (.unexpected t))

/-- The call of a call word, from its opening parenthesis on. -/
def call : ℕ → Token → Reading Node
  | 0, _ => exhausted
  | fuel + 1, word => do
    let _ ← advance tokens
    skip tokens fuel
    if (← peek tokens).kind = .closing then
      let _ ← advance tokens
      pure (.call (calledName word.text) word.text [])
    else
      let args ← arguments fuel []
      pure (.call (calledName word.text) word.text args)

/-- The arguments of a call up to its closing parenthesis, after the ones read before. -/
def arguments : ℕ → List Node → Reading (List Node)
  | 0, _ => exhausted
  | fuel + 1, before => do
    skip tokens fuel
    let arg ← expression fuel argumentPower true
    skip tokens fuel
    if (← peek tokens).kind = .comma then
      let _ ← advance tokens
      arguments fuel (before ++ [arg])
    else
      close tokens
      pure (before ++ [arg])

/-- An argument between parentheses, from behind the opening one. -/
def group : ℕ → Token → Reading Node
  | 0, _ => exhausted
  | fuel + 1, opening => do
    skip tokens fuel
    if (← peek tokens).kind = .closing then throw (.refused (.emptyGroup opening))
    else
      let inner ← expression fuel argumentPower true
      skip tokens fuel
      close tokens
      pure inner

end

/-- The expressions up to a final mark, after the ones read before. -/
def items : ℕ → List Node → Reading (List Node)
  | 0, _ => exhausted
  | fuel + 1, before => do
    if (← peek tokens).kind = .ending then pure before
    else
      let node ← expression tokens fuel 0 false
      items fuel (joinLast before node)

/-- The expressions of the tokens, and where the cursor stands afterwards. -/
def parse (fuel : ℕ) : Option (Except Halt (List Node × ℕ)) := ((items tokens fuel []).run 0).run

/-! ### How readings end -/

/-- What a reading gives from a cursor on, with the cursor afterwards. -/
def Reading.outcome {α : Type} (c : Reading α) (i : ℕ) : Option (Except Halt (α × ℕ)) :=
  (StateT.run c i).run

section

variable {α β : Type} {c : Reading α} {f : α → Reading β} {i j : ℕ}

@[simp] lemma outcome_pure (a : α) (i : ℕ) : (pure a : Reading α).outcome i = some (.ok (a, i)) :=
  rfl

lemma outcome_bind {a : α} (h : c.outcome i = some (.ok (a, j))) (f : α → Reading β) :
    (c >>= f).outcome i = (f a).outcome j := by
  change (ExceptT.run (StateT.run c i) >>= _) = _
  rw [show ExceptT.run (StateT.run c i) = _ from h]
  rfl

lemma outcome_bind_error {e : Halt} (h : c.outcome i = some (.error e)) (f : α → Reading β) :
    (c >>= f).outcome i = some (.error e) := by
  change (ExceptT.run (StateT.run c i) >>= _) = _
  rw [show ExceptT.run (StateT.run c i) = _ from h]
  rfl

end

/-- The cursor stands before these tokens, and the first final mark after it follows them. -/
structure Ahead (tokens more : List Token) (last : Token) (i : ℕ) (ts : List Token) : Prop where
  /-- The tokens from the cursor on. -/
  drop : tokens.drop i = ts ++ last :: more
  /-- No final mark comes before. -/
  free : ∀ t ∈ ts, t.kind ≠ .ending
  /-- The mark. -/
  ending : last.kind = .ending

namespace Ahead

variable {tokens more ts : List Token} {last t : Token} {i : ℕ}

lemma peek (h : Ahead tokens more last i ts) :
    (CursorParser.peek tokens).outcome i = some (.ok (ts.headD last, i)) := by
  have hat : tokens[i]? = some (ts.headD last) := by
    rw [← List.head?_drop, h.drop]
    cases ts <;> rfl
  have hget : (get : Reading ℕ).outcome i = some (.ok (i, i)) := rfl
  rw [CursorParser.peek, outcome_bind hget, hat, outcome_pure]

lemma head_mem (h : Ahead tokens more last i ts) : ts.headD last ∈ tokens := by
  refine List.mem_of_mem_drop (i := i) ?_
  rw [h.drop]
  cases ts <;> simp

/-- The cursor moves over a token that is no final mark. -/
lemma advance (h : Ahead tokens more last i (t :: ts)) :
    (CursorParser.advance tokens).outcome i = some (.ok (t, i + 1)) ∧
      Ahead tokens more last (i + 1) ts := by
  have ht : t.kind ≠ .ending := h.free t (by simp)
  refine ⟨?_, ?_, fun u hu => h.free u (List.mem_cons_of_mem t hu), h.ending⟩
  · rw [CursorParser.advance, outcome_bind h.peek, List.headD_cons, if_pos ht]
    rfl
  · rw [← List.tail_drop, h.drop]
    rfl

/-- The cursor stays before the final mark. -/
lemma advance_nil (h : Ahead tokens more last i []) :
    (CursorParser.advance tokens).outcome i = some (.ok (last, i)) := by
  rw [CursorParser.advance, outcome_bind h.peek, List.headD_nil, if_neg (by simp [h.ending])]
  rfl

lemma skip (h : Ahead tokens more last i ts) {fuel : ℕ} (hf : ts.length < fuel) :
    ∃ j, (CursorParser.skip tokens fuel).outcome i = some (.ok ((), j)) ∧
      Ahead tokens more last j (skipBlanks ts) := by
  induction ts generalizing fuel i with
  | nil =>
      obtain ⟨fuel, rfl⟩ := Nat.exists_eq_succ_of_ne_zero (Nat.ne_zero_of_lt hf)
      have hblank : ¬ last.isBlank := fun hb =>
        absurd (Grammar.kind_of_isBlank hb) (by simp [h.ending])
      rw [CursorParser.skip, outcome_bind h.peek, List.headD_nil, if_neg hblank]
      exact ⟨i, rfl, h⟩
  | cons t ts ih =>
      obtain ⟨fuel, rfl⟩ := Nat.exists_eq_succ_of_ne_zero (Nat.ne_zero_of_lt hf)
      rw [CursorParser.skip, outcome_bind h.peek, List.headD_cons]
      by_cases hblank : t.isBlank
      · obtain ⟨hadvance, hnext⟩ := h.advance
        rw [if_pos hblank, outcome_bind hadvance, skipBlanks, List.dropWhile_cons_of_pos hblank]
        exact ih hnext (Nat.lt_of_succ_lt_succ hf)
      · rw [if_neg hblank, skipBlanks, List.dropWhile_cons_of_neg hblank]
        exact ⟨i, rfl, h⟩

/-- No token continues an expression. -/
lemma extend (h : Ahead tokens more last i ts) (power fuel : ℕ) (left : Node) :
    (CursorParser.extend tokens power (fuel + 1) left).outcome i = some (.ok (left, i)) := by
  have hpower (k : TokenKind) : leftPower k = 0 := by cases k <;> rfl
  rw [CursorParser.extend, outcome_bind h.peek, hpower, if_neg (Nat.not_lt_zero power),
    outcome_pure]

end Ahead

section

variable {tokens more ts : List Token} {last : Token} {i : ℕ}

lemma Ahead.startsClosing_iff (h : Ahead tokens more last i ts) :
    (ts.headD last).kind = .closing ↔ startsClosing ts := by
  cases ts <;> simp [startsClosing, h.ending]

lemma Ahead.startsOpening_iff (h : Ahead tokens more last i ts) :
    (ts.headD last).kind = .opening ↔ startsOpening ts := by
  cases ts <;> simp [startsOpening, h.ending]

end

/-! ### Agreement -/

section

variable (tokens more : List Token) (last : Token)

/-- The error is about one of the tokens. -/
def About (e : ParseError) : Prop := ∃ t ∈ tokens, e.token? = some t

/-- From this cursor on a reading ends as the parser of lists does: with the same result, before the
same tokens, or refusing the tokens for the same reason, which is one of them. -/
def Agrees {α : Type} (c : Reading α) (i : ℕ) : Except ParseError (α × List Token) → Prop
  | .ok (a, rest) => ∃ j, c.outcome i = some (.ok (a, j)) ∧ Ahead tokens more last j rest
  | .error e => c.outcome i = some (.error (.refused e)) ∧ About tokens e

end

section

variable {tokens more ts : List Token} {last : Token} {α β : Type} {c : Reading α}
  {f : α → Reading β} {i j : ℕ}

/-- A first step that has a result does not matter for what follows it. -/
lemma Agrees.after {a : α} {r : Except ParseError (β × List Token)}
    (hc : c.outcome i = some (.ok (a, j))) (h : Agrees tokens more last (f a) j r) :
    Agrees tokens more last (c >>= f) i r := by
  cases r <;> rwa [Agrees, outcome_bind hc]

lemma Agrees.bind {r : Except ParseError (α × List Token)}
    {g : α × List Token → Except ParseError (β × List Token)} (h : Agrees tokens more last c i r)
    (hf : ∀ a rest j, r = .ok (a, rest) → Ahead tokens more last j rest →
      Agrees tokens more last (f a) j (g (a, rest))) :
    Agrees tokens more last (c >>= f) i (r >>= g) := by
  cases r with
  | error e => exact ⟨outcome_bind_error h.1 f, h.2⟩
  | ok p =>
      obtain ⟨j, hc, hahead⟩ := h
      exact .after hc (hf _ _ j rfl hahead)

lemma Agrees.map {r : Except ParseError (α × List Token)} (h : Agrees tokens more last c i r)
    (f : α → β) : Agrees tokens more last (c >>= fun a => pure (f a)) i
      (r.map fun (a, rest) => (f a, rest)) := by
  cases r with
  | error e => exact ⟨outcome_bind_error h.1 _, h.2⟩
  | ok p =>
      obtain ⟨j, hc, hahead⟩ := h
      exact .after hc ⟨j, rfl, hahead⟩

lemma Agrees.branch {p q : Prop} [Decidable p] [Decidable q] (hpq : p ↔ q) {d : Reading α}
    {r s : Except ParseError (α × List Token)} (hc : q → Agrees tokens more last c i r)
    (hd : ¬ q → Agrees tokens more last d i s) :
    Agrees tokens more last (if p then c else d) i (if q then r else s) := by
  by_cases hq : q
  · rw [if_pos (hpq.mpr hq), if_pos hq]
    exact hc hq
  · rw [if_neg (mt hpq.mp hq), if_neg hq]
    exact hd hq

lemma agrees_pure {a : α} (h : Ahead tokens more last i ts) :
    Agrees tokens more last (pure a) i (.ok (a, ts)) := ⟨i, rfl, h⟩

lemma agrees_refused {e : ParseError} {t : Token} (ht : t ∈ tokens) (he : e.token? = some t) :
    Agrees tokens more last (throw (.refused e) : Reading α) i (.error e) := ⟨rfl, t, ht, he⟩

/-- An expression ends where the token that begins it has been read. -/
lemma Agrees.expression {power fuel : ℕ} {inArguments : Bool} {t : Token}
    {r : Except ParseError (Node × List Token)}
    (hadvance : (advance tokens).outcome i = some (.ok (t, j)))
    (h : Agrees tokens more last (nud tokens (fuel + 1) inArguments t) j r) :
    Agrees tokens more last (expression tokens (fuel + 2) power inArguments) i r := by
  rw [CursorParser.expression]
  refine .after hadvance ?_
  have hextend := h.bind (f := extend tokens power (fuel + 1)) (g := .ok)
    fun a rest k _ hahead => ⟨k, hahead.extend power fuel a, hahead⟩
  cases r <;> exact hextend

lemma agrees_close (h : Ahead tokens more last i ts) :
    Agrees tokens more last (close tokens) i ((expectClose last ts).map ((), ·)) := by
  rw [close]
  refine .after h.peek ?_
  cases ts with
  | nil =>
      rw [List.headD_nil, if_neg (by simp [h.ending]), if_pos h.ending]
      exact agrees_refused h.head_mem rfl
  | cons t ts =>
      have ht : t.kind ≠ .ending := h.free t (by simp)
      rw [List.headD_cons, expectClose]
      by_cases hclosing : t.kind = .closing
      · obtain ⟨hadvance, hnext⟩ := h.advance
        rw [if_pos hclosing, if_pos (by simpa using hclosing)]
        exact .after hadvance (agrees_pure hnext)
      · rw [if_neg hclosing, if_neg ht, if_neg (by simpa using hclosing)]
        exact agrees_refused h.head_mem rfl

lemma skipBlanks_skipBlanks (ts : List Token) : skipBlanks (skipBlanks ts) = skipBlanks ts :=
  List.dropWhile_idempotent Token.isBlank ts

lemma parseArguments_skipBlanks (ending : Token) (fuel : ℕ) (ts : List Token) :
    parseArguments ending fuel (skipBlanks ts) = parseArguments ending fuel ts := by
  cases fuel with
  | zero => rw [parseArguments, parseArguments]
  | succ fuel => rw [parseArguments, parseArguments, skipBlanks_skipBlanks]

lemma length_skipBlanks_le (ts : List Token) : (skipBlanks ts).length ≤ ts.length :=
  (List.dropWhile_suffix _).length_le

lemma length_lt_of_parseArgument {depth : ℕ} {ending : Token} {e : Node} {rest : List Token}
    (h : parseArgument ending depth (skipBlanks ts) = .ok (e, rest)) :
    rest.length < (skipBlanks ts).length :=
  ((Grammar.sound ending depth).argument h (Grammar.head_skipBlanks ts)).length_lt

/-- What the functions of the parser read from a cursor on if they have enough fuel, when the parser
of lists may descend this far. -/
structure Simulates (tokens more : List Token) (last : Token) (depth : ℕ) : Prop where
  /-- Arguments. -/
  argument : ∀ {fuel i ts}, Ahead tokens more last i ts → 3 * ts.length ≤ depth →
    3 * ts.length + 2 ≤ fuel →
    Agrees tokens more last (expression tokens fuel argumentPower true) i
      (parseArgument last depth ts)
  /-- Calls, from the opening parenthesis on. -/
  call : ∀ {fuel i o ts} w, Ahead tokens more last i (o :: ts) → 3 * ts.length + 2 ≤ depth →
    3 * ts.length + 4 ≤ fuel →
    Agrees tokens more last (call tokens fuel w) i (parseCall last depth w ts)
  /-- Lists of arguments, after others. -/
  arguments : ∀ {fuel i ts} before, Ahead tokens more last i ts → 3 * ts.length + 1 ≤ depth →
    3 * ts.length + 3 ≤ fuel →
    Agrees tokens more last (arguments tokens fuel before) i
      ((parseArguments last depth ts).map fun (es, rest) => (before ++ es, rest))

variable {depth fuel : ℕ}

/-- Where the tokens are at their end there is no argument. -/
lemma agrees_argument_nil (h : Ahead tokens more last i []) (depth : ℕ) (hfuel : 2 ≤ fuel) :
    Agrees tokens more last (expression tokens fuel argumentPower true) i
      (parseArgument last depth []) := by
  obtain ⟨fuel, rfl⟩ := Nat.exists_eq_add_of_le' hfuel
  have hparse : parseArgument last depth [] = .error (.unclosed last) := by
    cases depth <;> rw [parseArgument]
  rw [hparse]
  refine .expression h.advance_nil ?_
  rw [nud.eq_def]
  simp only [h.ending]
  exact agrees_refused h.head_mem rfl

lemma Simulates.group (hs : Simulates tokens more last depth) {t : Token} (ht : t ∈ tokens)
    (h : Ahead tokens more last i ts) (hf : 3 * ts.length ≤ depth)
    (hfuel : 3 * ts.length + 3 ≤ fuel) :
    Agrees tokens more last (group tokens fuel t) i
      (if startsClosing (skipBlanks ts) then .error (.emptyGroup t)
      else do
        let (inner, after) ← parseArgument last depth (skipBlanks ts)
        let rest ← expectClose last (skipBlanks after)
        pure (inner, rest)) := by
  obtain ⟨fuel, rfl⟩ := Nat.exists_eq_succ_of_ne_zero (show fuel ≠ 0 by omega)
  have hle := length_skipBlanks_le ts
  obtain ⟨j, hskip, hj⟩ := h.skip (show ts.length < fuel by omega)
  rw [CursorParser.group]
  refine .after hskip (.after hj.peek (.branch hj.startsClosing_iff
    (fun _ => agrees_refused ht rfl) ?_))
  · intro _
    refine (hs.argument hj (by omega) (by omega)).bind fun inner after k hparse hk => ?_
    have hlt := length_lt_of_parseArgument hparse
    obtain ⟨k', hskip', hk'⟩ := hk.skip (show after.length < fuel by omega)
    refine .after hskip' ?_
    have hclose := (agrees_close hk').map fun _ => inner
    change Agrees _ _ _ _ _ (expectClose last (skipBlanks after) >>= fun rest => _)
    cases hexpect : expectClose last (skipBlanks after) <;> rw [hexpect] at hclose <;> exact hclose

lemma Simulates.argument_succ (hs : Simulates tokens more last depth)
    (h : Ahead tokens more last i ts) (hf : 3 * ts.length ≤ depth + 1)
    (hfuel : 3 * ts.length + 2 ≤ fuel) :
    Agrees tokens more last (expression tokens fuel argumentPower true) i
      (parseArgument last (depth + 1) ts) := by
  cases ts with
  | nil => exact agrees_argument_nil h _ hfuel
  | cons t ts =>
      obtain ⟨hadvance, hnext⟩ := h.advance
      have hending : t.kind ≠ .ending := h.free t (by simp)
      have hmem : t ∈ tokens := h.head_mem
      rw [List.length_cons] at hf hfuel
      obtain ⟨fuel, rfl⟩ := Nat.exists_eq_add_of_le' (show 2 ≤ fuel by omega)
      refine .expression hadvance ?_
      rw [nud.eq_def, parseArgument]
      dsimp only
      cases hkind : t.kind with
      | number => exact agrees_pure hnext
      | string => exact agrees_pure hnext
      | text => exact agrees_pure hnext
      | call =>
          refine .after hnext.peek (.branch hnext.startsOpening_iff (fun hopening => ?_)
            fun _ => agrees_pure hnext)
          obtain ⟨o, rest, rfl, -⟩ := Grammar.startsOpening_eq_true hopening
          simp only [List.length_cons] at hf hfuel
          rw [List.drop_one, List.tail_cons]
          exact hs.call t hnext (by omega) (by omega)
      | opening => exact hs.group hmem hnext (by omega) (by omega)
      | closing => exact agrees_refused hmem rfl
      | comma => exact agrees_refused hmem rfl
      | other => exact agrees_refused hmem rfl
      | ending => exact absurd hkind hending

lemma Simulates.call_succ (hs : Simulates tokens more last depth) {o : Token} (w : Token)
    (h : Ahead tokens more last i (o :: ts)) (hf : 3 * ts.length + 2 ≤ depth + 1)
    (hfuel : 3 * ts.length + 4 ≤ fuel) :
    Agrees tokens more last (CursorParser.call tokens fuel w) i
      (parseCall last (depth + 1) w ts) := by
  obtain ⟨fuel, rfl⟩ := Nat.exists_eq_succ_of_ne_zero (show fuel ≠ 0 by omega)
  obtain ⟨hadvance, hnext⟩ := h.advance
  obtain ⟨j, hskip, hj⟩ := hnext.skip (show ts.length < fuel by omega)
  rw [CursorParser.call, parseCall]
  refine .after hadvance (.after hskip (.after hj.peek (.branch hj.startsClosing_iff ?_ ?_)))
  · intro hclosing
    obtain ⟨c, rest, hc, -⟩ := Grammar.startsClosing_eq_true hclosing
    rw [hc] at hj ⊢
    obtain ⟨hadvance', hrest⟩ := hj.advance
    exact .after hadvance' (agrees_pure hrest)
  · intro _
    have hle := length_skipBlanks_le ts
    have hfuel' : 3 * (skipBlanks ts).length + 3 ≤ fuel := by omega
    have hargs := (hs.arguments [] hj (by omega) hfuel').map
      (Node.call (calledName w.text) w.text)
    rw [parseArguments_skipBlanks] at hargs
    cases hparse : parseArguments last depth ts <;> rw [hparse] at hargs <;> exact hargs

lemma Simulates.arguments_succ (hs : Simulates tokens more last depth) (before : List Node)
    (h : Ahead tokens more last i ts) (hf : 3 * ts.length + 1 ≤ depth + 1)
    (hfuel : 3 * ts.length + 3 ≤ fuel) :
    Agrees tokens more last (CursorParser.arguments tokens fuel before) i
      ((parseArguments last (depth + 1) ts).map fun (es, rest) => (before ++ es, rest)) := by
  obtain ⟨fuel, rfl⟩ := Nat.exists_eq_succ_of_ne_zero (show fuel ≠ 0 by omega)
  obtain ⟨j, hskip, hj⟩ := h.skip (show ts.length < fuel by omega)
  have hle := length_skipBlanks_le ts
  have harg := hs.argument hj (by omega) (show 3 * (skipBlanks ts).length + 2 ≤ fuel by omega)
  rw [CursorParser.arguments, parseArguments]
  refine .after hskip ?_
  cases hparse : parseArgument last depth (skipBlanks ts) with
  | error e =>
      rw [hparse] at harg
      exact ⟨outcome_bind_error harg.1 _, harg.2⟩
  | ok p =>
      obtain ⟨arg, after⟩ := p
      -- an argument takes at least one token, so that the fuel suffices for the tokens after it
      have hlt := length_lt_of_parseArgument hparse
      rw [hparse] at harg
      obtain ⟨k, hexpression, hk⟩ := harg
      obtain ⟨k', hskip', hk'⟩ := hk.skip (show after.length < fuel by omega)
      have hle' := length_skipBlanks_le after
      have hclose := (agrees_close hk').map fun _ => before ++ [arg]
      refine .after hexpression (.after hskip' (.after hk'.peek ?_))
      simp only [bind, Except.bind, pure, Except.pure]
      cases hafter : skipBlanks after with
      | nil =>
          rw [hafter] at hclose
          rw [List.headD_nil, if_neg (by simp [h.ending])]
          exact hclose
      | cons t rest =>
          rw [hafter] at hk' hclose hle'
          rw [List.length_cons] at hle'
          rw [List.headD_cons]
          by_cases hcomma : t.kind = .comma
          · obtain ⟨hadvance, hrest⟩ := hk'.advance
            have hfuel' : 3 * rest.length + 3 ≤ fuel := by omega
            have hargs := hs.arguments (before ++ [arg]) hrest (by omega) hfuel'
            simp only [hcomma, if_true, beq_self_eq_true]
            refine .after hadvance ?_
            cases hmore : parseArguments last depth rest <;> rw [hmore] at hargs
            · exact hargs
            · simpa [Except.map] using hargs
          · simp only [hcomma, if_false, beq_iff_eq]
            simp only [expectClose, beq_iff_eq] at hclose
            split <;> rename_i hclosing
            · rw [if_pos hclosing] at hclose
              exact hclose
            · rw [if_neg hclosing] at hclose
              exact hclose

lemma simulates (tokens more : List Token) (last : Token) :
    ∀ depth, Simulates tokens more last depth
  | 0 =>
      { argument := fun {fuel i ts} h hf hfuel => by
          obtain rfl := List.eq_nil_of_length_eq_zero (show ts.length = 0 by omega)
          exact agrees_argument_nil h 0 hfuel
        call := fun _ _ hf => by omega
        arguments := fun _ _ hf => by omega }
  | depth + 1 =>
      have ih := simulates tokens more last depth
      ⟨ih.argument_succ, ih.call_succ, ih.arguments_succ⟩

end

/-! ### Adjacent texts -/

lemma exists_text_of_isText {e : Node} (h : e.isText) : ∃ s, e = .text s := by
  cases e with
  | text s => exact ⟨s, rfl⟩
  | _ => simp [Node.isText] at h

lemma joinLast_nil (node : Node) : joinLast [] node = [node] := by cases node <;> rfl

lemma joinLast_snoc_text (nodes : List Node) (s t : String) :
    joinLast (nodes ++ [.text s]) (.text t) = nodes ++ [.text (s ++ t)] := by
  simp [joinLast]

/-- Only a text is joined, and only with a text. -/
lemma joinLast_of_not {nodes : List Node} {node : Node}
    (h : ¬ (node.isText ∧ ∃ l ∈ nodes.getLast?, l.isText)) :
    joinLast nodes node = nodes ++ [node] := by
  unfold joinLast
  split
  · next hlast => simp [Node.isText, hlast] at h
  · rfl

/-- Two texts are joined one after the other as their joined text is. -/
lemma joinLast_joinLast_text (nodes : List Node) (s t : String) :
    joinLast (joinLast nodes (.text s)) (.text t) = joinLast nodes (.text (s ++ t)) := by
  by_cases hlast : ∃ l ∈ nodes.getLast?, l.isText
  · obtain ⟨l, hl, htext⟩ := hlast
    obtain ⟨u, rfl⟩ := exists_text_of_isText htext
    rw [← List.dropLast_append_getLast? _ hl, joinLast_snoc_text, joinLast_snoc_text,
      joinLast_snoc_text, String.append_assoc]
  · rw [joinLast_of_not (fun h => hlast h.2), joinLast_of_not (fun h => hlast h.2),
      joinLast_snoc_text]

/-- An expression that is not joined with the next one. -/
lemma joinLast_joinLast {nodes : List Node} {e e' : Node} (h : ¬ (e.isText ∧ e'.isText)) :
    joinLast (joinLast nodes e) e' = joinLast nodes e ++ [e'] := by
  refine joinLast_of_not fun ⟨he', l, hl, htext⟩ => ?_
  have he : ¬ e.isText := fun he => h ⟨he, he'⟩
  rw [joinLast_of_not (fun h => he h.1)] at hl
  obtain rfl : e = l := by simpa using hl
  exact he htext

/-- Joining texts from left to right gives what joining them from right to left does. -/
lemma foldl_joinLast (nodes es : List Node) : es.foldl joinLast nodes = match mergeTexts es with
    | [] => nodes
    | e :: more => joinLast nodes e ++ more := by
  induction es generalizing nodes with
  | nil => rfl
  | cons e es ih =>
      rw [List.foldl_cons, ih]
      by_cases he : e.isText
      · obtain ⟨s, rfl⟩ := exists_text_of_isText he
        by_cases hhead : ∀ e ∈ (mergeTexts es).head?, ¬ e.isText
        · rw [Grammar.mergeTexts_text hhead]
          cases hmerge : mergeTexts es with
          | nil => simp
          | cons e' more =>
              rw [hmerge] at hhead
              have he' : ¬ e'.isText := hhead e' rfl
              simp [joinLast_joinLast fun h => he' h.2]
        · obtain ⟨t, more, hmerge⟩ := Grammar.exists_text_of_head hhead
          rw [Grammar.mergeTexts_joined hmerge, hmerge]
          dsimp only
          rw [joinLast_joinLast_text]
      · rw [Grammar.mergeTexts_of_ne_text he]
        cases mergeTexts es with
        | nil => simp
        | cons e' more => simp [joinLast_joinLast fun h => he h.1]

lemma foldl_joinLast_nil (es : List Node) : es.foldl joinLast [] = mergeTexts es := by
  rw [foldl_joinLast]
  cases mergeTexts es with
  | nil => rfl
  | cons e more => simp [joinLast_nil]

/-! ### Programs -/

section

variable {tokens more ts : List Token} {last : Token} {i : ℕ}

/-- The parser of lists on the item that a token begins outside arguments. -/
def parseItem (ending t : Token) (ts : List Token) : Except ParseError (Node × List Token) :=
  if t.kind == .call && startsOpening ts then parseCall ending (3 * ts.length + 3) t (ts.drop 1)
  else .ok (if t.kind == .number then .number t.text else .text t.text, ts)

lemma parseItems_cons (ending : Token) (fuel : ℕ) (t : Token) (ts : List Token) :
    parseItems ending (fuel + 1) (t :: ts) = (parseItem ending t ts >>= fun (node, after) =>
      (parseItems ending fuel after).map (node :: ·)) := by
  rw [parseItems, parseItem]
  split
  · rfl
  · change _ = (parseItems ending fuel ts).map _
    cases parseItems ending fuel ts <;> rfl

lemma length_le_of_parseItem {ending t : Token} {rest : List Token} {node : Node}
    (h : parseItem ending t ts = .ok (node, rest)) : rest.length ≤ ts.length := by
  rw [parseItem] at h
  split at h
  · next hcall =>
      simp only [Bool.and_eq_true, beq_iff_eq] at hcall
      obtain ⟨o, ts, rfl, ho⟩ := Grammar.startsOpening_eq_true hcall.2
      have hlt := ((Grammar.sound ending _).call hcall.1 ho h).length_lt
      simpa [Nat.lt_succ_iff] using hlt
  · cases h
    exact le_rfl

lemma agrees_item {t : Token} {fuel : ℕ} (h : Ahead tokens more last i (t :: ts))
    (hfuel : 3 * ts.length + 5 ≤ fuel) :
    Agrees tokens more last (expression tokens fuel 0 false) i (parseItem last t ts) := by
  obtain ⟨hadvance, hnext⟩ := h.advance
  obtain ⟨fuel, rfl⟩ := Nat.exists_eq_add_of_le' (show 2 ≤ fuel by omega)
  refine .expression hadvance ?_
  rw [nud.eq_def, parseItem]
  dsimp only
  cases hkind : t.kind with
  | call =>
      refine .after hnext.peek (.branch (by simpa using hnext.startsOpening_iff)
        (fun hopening => ?_) fun _ => agrees_pure hnext)
      obtain ⟨o, rest, rfl, -⟩ := Grammar.startsOpening_eq_true (by simpa using hopening)
      rw [List.length_cons] at hfuel ⊢
      rw [List.drop_one, List.tail_cons]
      exact (simulates tokens more last _).call t hnext (by omega) (by omega)
  | _ => exact agrees_pure hnext

lemma agrees_items_nil (before : List Node) (h : Ahead tokens more last i []) (fuel : ℕ) :
    Agrees tokens more last (items tokens (fuel + 1) before) i (.ok (before, [])) := by
  rw [items]
  refine .after h.peek ?_
  rw [List.headD_nil, if_pos h.ending]
  exact agrees_pure h

/-- The items up to the final mark, each of which is joined with the ones before. -/
lemma agrees_items {depth fuel : ℕ} (before : List Node) (h : Ahead tokens more last i ts)
    (hf : ts.length ≤ depth) (hfuel : 3 * ts.length + 3 ≤ fuel) :
    Agrees tokens more last (items tokens fuel before) i
      ((parseItems last depth ts).map fun es => (es.foldl joinLast before, [])) := by
  induction depth generalizing fuel before i ts with
  | zero =>
      obtain ⟨fuel, rfl⟩ := Nat.exists_eq_succ_of_ne_zero (show fuel ≠ 0 by omega)
      obtain rfl := List.eq_nil_of_length_eq_zero (Nat.le_zero.mp hf)
      exact agrees_items_nil before h fuel
  | succ depth ih =>
      obtain ⟨fuel, rfl⟩ := Nat.exists_eq_succ_of_ne_zero (show fuel ≠ 0 by omega)
      cases ts with
      | nil => exact agrees_items_nil before h fuel
      | cons t ts =>
          have hending : t.kind ≠ .ending := h.free t (by simp)
          rw [List.length_cons] at hf hfuel
          rw [items, parseItems_cons]
          refine .after h.peek ?_
          rw [List.headD_cons, if_neg hending]
          have hitem := agrees_item h (show 3 * ts.length + 5 ≤ fuel by omega)
          cases hparse : parseItem last t ts with
          | error e =>
              rw [hparse] at hitem
              exact ⟨outcome_bind_error hitem.1 _, hitem.2⟩
          | ok p =>
              obtain ⟨node, rest⟩ := p
              rw [hparse] at hitem
              obtain ⟨j, hnode, hj⟩ := hitem
              have hle := length_le_of_parseItem hparse
              have hfuel' : 3 * rest.length + 3 ≤ fuel := by omega
              have hmore := ih (joinLast before node) hj (by omega) hfuel'
              refine .after hnode ?_
              change Agrees _ _ _ _ _ (((parseItems last depth rest).map (node :: ·)).map _)
              cases hrest : parseItems last depth rest <;> rw [hrest] at hmore <;> exact hmore

end

end CursorParser

/-- The first final mark among the tokens, and what the parser of lists does up to it. -/
lemma parse?_eq_parseBody {tokens : List Token} {last : Token} (hlast : tokens.getLast? = some last)
    (hending : last.kind = .ending) : ∃ more first, CursorParser.Ahead tokens more first 0
      (tokens.takeWhile fun t => !(t.kind == .ending)) ∧
      parse? tokens =
        some (parseBody first (tokens.takeWhile fun t => !(t.kind == .ending))) := by
  have hsome : (tokens.find? fun t => t.kind == .ending).isSome :=
    List.find?_isSome.mpr ⟨last, List.mem_of_getLast? hlast, by simpa using hending⟩
  obtain ⟨first, hfirst⟩ := Option.isSome_iff_exists.mp hsome
  obtain ⟨hkind, before, more, htokens, hbefore⟩ := List.find?_eq_some_iff_append.mp hfirst
  have htake : (tokens.takeWhile fun t => !(t.kind == .ending)) = before := by
    rw [htokens, List.takeWhile_append_of_pos hbefore, List.takeWhile_cons_of_neg (by simp [hkind]),
      List.append_nil]
  refine ⟨more, first, ⟨by rw [htake, List.drop_zero, htokens], ?_, by simpa using hkind⟩, ?_⟩
  · rw [htake]
    simpa using hbefore
  · simp [parse?, hlast, hending, hfirst]

/-- **The parser is total.**  Let the last of the tokens be a final mark, whatever the other tokens
are.  Then a parser that reads them in place comes to an end if it has fuel of three steps for each
token, or any more: never reading past the last token and never continuing an expression to the
right, it gives expressions, with the cursor before the first final mark, or refuses one of the
tokens.  So does the parser of lists, with the same result. -/
theorem cursor_parse_total {tokens : List Token} {last : Token}
    (hlast : tokens.getLast? = some last) (hending : last.kind = .ending) :
    ∃ r : Except ParseError (List Node), parse? tokens = some r ∧
      (∀ fuel, 3 * tokens.length ≤ fuel → CursorParser.parse tokens fuel = some (match r with
        | .ok es => .ok (es, (tokens.takeWhile fun t => !(t.kind == .ending)).length)
        | .error e => .error (.refused e))) ∧
      ∀ e, r = .error e → ∃ t ∈ tokens, e.token? = some t := by
  obtain ⟨more, first, hahead, hparse⟩ := parse?_eq_parseBody hlast hending
  set body := tokens.takeWhile fun t => !(t.kind == .ending)
  have hlength : tokens.length = body.length + (more.length + 1) := by
    simpa using congrArg List.length hahead.drop
  have hitems {fuel : ℕ} (hfuel : 3 * tokens.length ≤ fuel) :=
    CursorParser.agrees_items [] hahead le_rfl (show 3 * body.length + 3 ≤ fuel by omega)
  refine ⟨_, hparse, ?_⟩
  rw [parseBody]
  cases hread : parseItems first body.length body with
  | error e =>
      rw [hread] at hitems
      refine ⟨fun fuel hfuel => (hitems hfuel).1, fun e' he' => ?_⟩
      cases he'
      exact (hitems le_rfl).2
  | ok es =>
      rw [hread] at hitems
      refine ⟨fun fuel hfuel => ?_, fun e he => by cases he⟩
      obtain ⟨j, hj, hend⟩ := hitems hfuel
      -- the cursor stands before the first final mark, so its place is the number of tokens before
      have hplace : j = body.length := by
        have hrest := congrArg List.length hend.drop
        simp only [List.length_drop, List.length_append, List.length_cons, List.length_nil] at hrest
        omega
      rw [CursorParser.foldl_joinLast_nil, hplace] at hj
      exact hj

/-- A call that is still open at the first of two final marks, and tokens of which some stand behind
the first final mark and one is of an unknown kind. -/
theorem cursor_parse_total_marks :
    let unclosed : List Token := [⟨.call, "@f", 0⟩, ⟨.opening, "(", 2⟩, ⟨.text, "a", 3⟩,
      ⟨.ending, "", 4⟩, ⟨.closing, ")", 4⟩, ⟨.ending, "", 5⟩]
    let mixed : List Token := [⟨.other "?", "?", 0⟩, ⟨.closing, ")", 1⟩, ⟨.ending, "", 2⟩,
      ⟨.call, "@f", 2⟩, ⟨.ending, "", 4⟩]
    (∀ fuel, 18 ≤ fuel →
        CursorParser.parse unclosed fuel = some (.error (.refused (.unclosed ⟨.ending, "", 4⟩)))) ∧
      ∀ fuel, 15 ≤ fuel → CursorParser.parse mixed fuel = some (.ok ([.text "?)"], 2)) := by
  intro unclosed mixed
  have hunclosed : unclosed.getLast? = some ⟨.ending, "", 5⟩ := rfl
  have hmixed : mixed.getLast? = some ⟨.ending, "", 4⟩ := rfl
  constructor
  · obtain ⟨r, hr, hparse, -⟩ := cursor_parse_total hunclosed rfl
    have hrefused : parse? unclosed = some (.error (.unclosed ⟨.ending, "", 4⟩)) := by rfl
    obtain rfl := Option.some.inj (hr.symm.trans hrefused)
    exact hparse
  · obtain ⟨r, hr, hparse, -⟩ := cursor_parse_total hmixed rfl
    have hread : parse? mixed = some (.ok [.text "?)"]) := by rfl
    obtain rfl := Option.some.inj (hr.symm.trans hread)
    exact hparse

end Sigil
