/-
# Cutting a text, piece by piece

The scanner is described without offsets: `Cut isName st cs ps rest` says that from the state `st`
the pieces `ps` are cut off the front of `cs` and that `rest` remains.  Every piece is read with the
characters after it in sight, so cuts compose.  A piece looks at most one character past a character
that stands in no word; hence pieces that end with a parenthesis are the same whatever follows them.
-/
import Sigil.Proofs.Outcome
import Sigil.Token.Scan

namespace Sigil

/-- A piece of a text and its kind. -/
abbrev Piece := TokenKind × List Char

/-- The characters of consecutive pieces. -/
def spelling (ps : List Piece) : List Char := ps.flatMap Prod.snd

/-- The tokens of consecutive pieces that begin at an offset. -/
def place : ℕ → List Piece → List Token
  | _, [] => []
  | position, (kind, p) :: ps => ⟨kind, String.ofList p, position⟩ :: place (position + p.length) ps

/-- The state after tokens of these kinds. -/
def ScanState.afterAll (st : ScanState) (kinds : List TokenKind) : ScanState :=
  kinds.foldl ScanState.after st

/-- Pieces are cut off the front of a text. -/
inductive Cut (isName : String → Bool) : ScanState → List Char → List Piece → List Char → Prop
  | done {st : ScanState} {rest : List Char} : Cut isName st rest [] rest
  | piece {st : ScanState} {c : Char} {s p after rest : List Char} {kind : TokenKind}
      {ps : List Piece} : pieceAt? isName st.depth c s = some (kind, p) → c :: s = p ++ after →
      Cut isName (st.after kind) after ps rest → Cut isName st (c :: s) ((kind, p) :: ps) rest

variable {isName : String → Bool}

@[simp] lemma spelling_nil : spelling [] = [] := rfl

@[simp] lemma spelling_cons (kind : TokenKind) (p : List Char) (ps : List Piece) :
    spelling ((kind, p) :: ps) = p ++ spelling ps := rfl

@[simp] lemma spelling_append (ps qs : List Piece) :
    spelling (ps ++ qs) = spelling ps ++ spelling qs := List.flatMap_append

@[simp] lemma afterAll_nil (st : ScanState) : st.afterAll [] = st := rfl

@[simp] lemma afterAll_cons (st : ScanState) (kind : TokenKind) (kinds : List TokenKind) :
    st.afterAll (kind :: kinds) = (st.after kind).afterAll kinds := rfl

@[simp] lemma afterAll_append (st : ScanState) (kinds kinds' : List TokenKind) :
    st.afterAll (kinds ++ kinds') = (st.afterAll kinds).afterAll kinds' := List.foldl_append

/-! ### Tokens of pieces -/

@[simp] lemma place_append (position : ℕ) (ps qs : List Piece) :
    place position (ps ++ qs) =
      place position ps ++ place (position + (spelling ps).length) qs := by
  induction ps generalizing position with
  | nil => simp [place]
  | cons piece ps ih =>
      obtain ⟨kind, p⟩ := piece
      simp [place, ih, Nat.add_assoc]

lemma place_kinds (position : ℕ) (ps : List Piece) :
    (place position ps).map Token.kind = ps.map Prod.fst := by
  induction ps generalizing position with
  | nil => rfl
  | cons piece ps ih =>
      obtain ⟨kind, p⟩ := piece
      simp [place, ih]

lemma mem_place {position : ℕ} {ps : List Piece} {t : Token} (h : t ∈ place position ps) :
    ∃ p, (t.kind, p) ∈ ps ∧ t.text = String.ofList p := by
  induction ps generalizing position with
  | nil => simp [place] at h
  | cons piece ps ih =>
      obtain ⟨kind, p⟩ := piece
      rcases List.mem_cons.mp h with rfl | h
      · exact ⟨p, by simp, rfl⟩
      · obtain ⟨q, hq, htext⟩ := ih h
        exact ⟨q, by simp [hq], htext⟩

/-- A division of the tokens is a division of the pieces. -/
lemma place_eq_append {position : ℕ} {ps : List Piece} {ts us : List Token}
    (h : place position ps = ts ++ us) :
    ∃ qs rs, ps = qs ++ rs ∧ ts = place position qs ∧
      us = place (position + (spelling qs).length) rs := by
  induction ts generalizing position ps with
  | nil => exact ⟨[], ps, rfl, rfl, by simpa using h.symm⟩
  | cons t ts ih =>
      cases ps with
      | nil => simp [place] at h
      | cons piece ps =>
          obtain ⟨kind, p⟩ := piece
          simp only [place, List.cons_append, List.cons.injEq] at h
          obtain ⟨rfl, h⟩ := h
          obtain ⟨qs, rs, rfl, rfl, rfl⟩ := ih h
          exact ⟨(kind, p) :: qs, rs, rfl, rfl, by simp [Nat.add_assoc]⟩

lemma place_eq_cons {position : ℕ} {ps : List Piece} {t : Token} {us : List Token}
    (h : place position ps = t :: us) :
    ∃ kind p rs, ps = (kind, p) :: rs ∧ t = ⟨kind, String.ofList p, position⟩ ∧
      us = place (position + p.length) rs := by
  cases ps with
  | nil => simp [place] at h
  | cons piece rs =>
      obtain ⟨kind, p⟩ := piece
      simp only [place, List.cons.injEq] at h
      exact ⟨kind, p, rs, rfl, h.1.symm, h.2.symm⟩

/-- The same pieces somewhere else: only the offsets change. -/
lemma place_eq_map (position position' : ℕ) (ps : List Piece) :
    place position' ps = (place position ps).map
      fun t => { t with position := t.position - position + position' } := by
  suffices h : ∀ k, place (position' + k) ps =
      (place (position + k) ps).map
        fun t => { t with position := t.position - position + position' } by simpa using h 0
  intro k
  induction ps generalizing k with
  | nil => rfl
  | cons piece ps ih =>
      obtain ⟨kind, p⟩ := piece
      have hk : position + k - position + position' = position' + k := by omega
      simp only [place, List.map_cons, hk, List.cons.injEq, true_and]
      simpa only [Nat.add_assoc] using ih (k + p.length)

/-! ### Pieces -/

lemma numberAt_isPrefix (s : List Char) : numberAt s <+: s := by
  have hs := List.takeWhile_append_dropWhile (p := isNumeralDigit) (l := s)
  rw [numberAt]
  split
  · next rest hrest =>
      rw [hrest] at hs
      dsimp only
      split
      · exact List.takeWhile_prefix _
      · refine ⟨rest.dropWhile isNumeralDigit, ?_⟩
        conv_rhs => rw [← hs, ← List.takeWhile_append_dropWhile (p := isNumeralDigit) (l := rest)]
        simp
  · exact List.takeWhile_prefix _

lemma numberAt_cons {c : Char} (hc : isNumeralDigit c) (s : List Char) :
    ∃ p, numberAt (c :: s) = c :: p := by
  have htake : (c :: s).takeWhile isNumeralDigit = c :: s.takeWhile isNumeralDigit :=
    List.takeWhile_cons_of_pos hc
  rw [numberAt]
  simp only [htake]
  split
  · split
    · exact ⟨_, rfl⟩
    · exact ⟨_, rfl⟩
  · exact ⟨_, rfl⟩

/-- Within a string, a character that is no backslash stands for itself. -/
lemma stringTail?_cons {c : Char} (hc : c ≠ '\\') (s : List Char) :
    stringTail? (c :: s) =
      if c == '\'' then some [c] else (stringTail? s).map (c :: ·) := by
  cases s with
  | nil => simp [stringTail?, hc]
  | cons d s => simp [stringTail?, hc]

lemma ne_backslash {c : Char} {s : List Char} (hnil : c = '\\' → s = [] → False)
    (hcons : ∀ d rest, c = '\\' → s = d :: rest → False) : c ≠ '\\' := by
  intro hc
  cases s with
  | nil => exact hnil hc rfl
  | cons d rest => exact hcons d rest hc rfl

lemma stringTail?_isPrefix {s t : List Char} (h : stringTail? s = some t) : t <+: s ∧ t ≠ [] := by
  fun_induction stringTail? s generalizing t with
  | case1 => simp at h
  | case2 => simp at h
  | case3 c rest ih =>
      obtain ⟨u, hu, rfl⟩ := Option.map_eq_some_iff.mp h
      obtain ⟨⟨v, rfl⟩, -⟩ := ih hu
      exact ⟨⟨v, rfl⟩, by simp⟩
  | case4 c rest _ _ hc =>
      simp only [Option.some.injEq] at h
      subst h
      exact ⟨⟨rest, rfl⟩, by simp⟩
  | case5 c rest _ _ hc ih =>
      obtain ⟨u, hu, rfl⟩ := Option.map_eq_some_iff.mp h
      obtain ⟨⟨v, rfl⟩, -⟩ := ih hu
      exact ⟨⟨v, rfl⟩, by simp⟩

/-- The forms of the pieces that begin the text `c :: s` at a depth. -/
inductive PieceForm (isName : String → Bool) (depth : ℕ) (c : Char) (s : List Char) :
    TokenKind → List Char → Prop
  | blank : isSeparator c → PieceForm isName depth c s .text [c]
  | mark {kind : TokenKind} : structural? c = some kind → PieceForm isName depth c s kind [c]
  | number : isNumeralDigit c → PieceForm isName depth c s .number (numberAt (c :: s))
  | string {t : List Char} : c = '\'' → depth ≠ 0 → stringTail? s = some t →
      PieceForm isName depth c s .string (c :: t)
  | call : isCallWord isName (c :: s.takeWhile isWordChar) →
      PieceForm isName depth c s .call (c :: s.takeWhile isWordChar)
  | word : ¬ isCallWord isName (c :: s.takeWhile isWordChar) →
      PieceForm isName depth c s .text (c :: s.takeWhile isWordChar)

lemma pieceAt?_form {depth : ℕ} {c : Char} {s p : List Char} {kind : TokenKind}
    (h : pieceAt? isName depth c s = some (kind, p)) : PieceForm isName depth c s kind p := by
  rw [pieceAt?] at h
  split at h
  · next hc =>
      simp only [Option.some.injEq, Prod.mk.injEq] at h
      obtain ⟨rfl, rfl⟩ := h
      exact .blank hc
  · split at h
    · next k hc =>
        simp only [Option.some.injEq, Prod.mk.injEq] at h
        obtain ⟨rfl, rfl⟩ := h
        exact .mark hc
    · split at h
      · next hc =>
          simp only [Option.some.injEq, Prod.mk.injEq] at h
          obtain ⟨rfl, rfl⟩ := h
          exact .number hc
      · split at h
        · next hc =>
            simp only [Bool.and_eq_true, beq_iff_eq, bne_iff_ne] at hc
            obtain ⟨t, ht, hp⟩ := Option.map_eq_some_iff.mp h
            simp only [Prod.mk.injEq] at hp
            obtain ⟨rfl, rfl⟩ := hp
            exact .string hc.1 hc.2 ht
        · simp only [Option.some.injEq, Prod.mk.injEq] at h
          obtain ⟨rfl, rfl⟩ := h
          split
          · next hw => exact .call hw
          · next hw => exact .word hw

/-- A piece begins the text that it is cut off from. -/
lemma PieceForm.start {depth : ℕ} {c : Char} {s p : List Char} {kind : TokenKind}
    (h : PieceForm isName depth c s kind p) : ∃ q, p = c :: q ∧ q <+: s := by
  cases h with
  | blank => exact ⟨[], rfl, List.nil_prefix⟩
  | mark => exact ⟨[], rfl, List.nil_prefix⟩
  | number hc =>
      obtain ⟨q, hq⟩ := numberAt_cons hc s
      have hpre := numberAt_isPrefix (c :: s)
      rw [hq, List.cons_prefix_cons] at hpre
      exact ⟨q, hq, hpre.2⟩
  | string _ _ ht => exact ⟨_, rfl, (stringTail?_isPrefix ht).1⟩
  | call => exact ⟨_, rfl, List.takeWhile_prefix _⟩
  | word => exact ⟨_, rfl, List.takeWhile_prefix _⟩

lemma structural?_kind {c : Char} {kind : TokenKind} (h : structural? c = some kind) :
    (c = '(' ∧ kind = .opening) ∨ (c = ')' ∧ kind = .closing) ∨ (c = ',' ∧ kind = .comma) := by
  unfold structural? at h
  split at h <;> simp_all

lemma PieceForm.opening {depth : ℕ} {c : Char} {s p : List Char}
    (h : PieceForm isName depth c s .opening p) : c = '(' := by
  cases h with
  | mark hk =>
      rcases structural?_kind hk with ⟨rfl, -⟩ | ⟨-, hk'⟩ | ⟨-, hk'⟩
      · rfl
      · simp at hk'
      · simp at hk'

lemma PieceForm.closing {depth : ℕ} {c : Char} {s p : List Char}
    (h : PieceForm isName depth c s .closing p) : c = ')' ∧ p = [')'] := by
  cases h with
  | mark hk =>
      rcases structural?_kind hk with ⟨-, hk'⟩ | ⟨rfl, -⟩ | ⟨-, hk'⟩
      · simp at hk'
      · exact ⟨rfl, rfl⟩
      · simp at hk'

/-- The scanner makes no final mark of a text. -/
lemma PieceForm.kind_ne_ending {depth : ℕ} {c : Char} {s p : List Char} {kind : TokenKind}
    (h : PieceForm isName depth c s kind p) : kind ≠ .ending := by
  cases h with
  | mark hk => rcases structural?_kind hk with ⟨-, rfl⟩ | ⟨-, rfl⟩ | ⟨-, rfl⟩ <;> decide
  | _ => decide

/-- A call word is a sigil and word characters. -/
lemma PieceForm.call_word {depth : ℕ} {c : Char} {s p : List Char}
    (h : PieceForm isName depth c s .call p) :
    isCallWord isName p ∧ ∀ d ∈ p.tail, isWordChar d := by
  cases h with
  | mark hk => rcases structural?_kind hk with ⟨-, hk'⟩ | ⟨-, hk'⟩ | ⟨-, hk'⟩ <;> simp at hk'
  | call hw => exact ⟨hw, fun d hd => List.mem_takeWhile_imp hd⟩

lemma sigil_of_isCallWord {p : List Char} (h : isCallWord isName p) : ∃ q, p = sigil :: q := by
  unfold isCallWord at h
  split at h
  · exact ⟨_, rfl⟩
  · simp at h

/-! ### Pieces before a character that stands in no word -/

/-- The text is empty or begins with a character that stands in no word. -/
def Apart (rest : List Char) : Prop := ∀ x ∈ rest.head?, ¬ isWordChar x

lemma isWordChar_of_isNumeralDigit {c : Char} (h : isNumeralDigit c) : isWordChar c := by
  simp only [isNumeralDigit, Bool.and_eq_true, decide_eq_true_eq] at h
  have hne : ∀ d : Char, ¬ ('0' ≤ d ∧ d ≤ '9') → c ≠ d := fun d hd hcd => hd (hcd ▸ h)
  have hs : structural? c = none := by
    unfold structural?
    split
    · exact absurd rfl (hne '(' (by decide))
    · exact absurd rfl (hne ')' (by decide))
    · exact absurd rfl (hne ',' (by decide))
    · rfl
  have hblank : isSeparator c = false := by
    simp only [isSeparator, Bool.or_eq_false_iff, beq_eq_false_iff_ne]
    exact ⟨⟨⟨hne _ (by decide), hne _ (by decide)⟩, hne _ (by decide)⟩, hne _ (by decide)⟩
  simp [isWordChar, hs, hblank, sigil, hne '@' (by decide)]

section

variable {rest : List Char}

lemma takeWhile_append_apart {q : Char → Bool} (hq : ∀ c, q c → isWordChar c) (hr : Apart rest)
    (s : List Char) : (s ++ rest).takeWhile q = s.takeWhile q := by
  induction s with
  | nil =>
      cases rest with
      | nil => rfl
      | cons x rest => exact List.takeWhile_cons_of_neg fun h => hr x rfl (hq x h)
  | cons c s ih => simp [List.takeWhile_cons, ih]

lemma dropWhile_append_apart {q : Char → Bool} (hq : ∀ c, q c → isWordChar c) (hr : Apart rest)
    (s : List Char) : (s ++ rest).dropWhile q = s.dropWhile q ++ rest := by
  induction s with
  | nil =>
      cases rest with
      | nil => rfl
      | cons x rest => exact List.dropWhile_cons_of_neg fun h => hr x rfl (hq x h)
  | cons c s ih =>
      rw [List.cons_append, List.dropWhile_cons, List.dropWhile_cons, ih]
      split <;> rfl

lemma numberAt_append (hr : Apart rest) (s : List Char) : numberAt (s ++ rest) = numberAt s := by
  have hd : ∀ c, isNumeralDigit c → isWordChar c := fun c => isWordChar_of_isNumeralDigit
  rw [numberAt, numberAt, takeWhile_append_apart hd hr, dropWhile_append_apart hd hr]
  rcases hs : s.dropWhile isNumeralDigit with - | ⟨c, t⟩
  · -- what remains is not a point, which stands in words
    cases rest with
    | nil => rfl
    | cons x rest =>
        have hx : x ≠ '.' := fun h => hr x rfl (h ▸ by decide)
        simp [hx]
  · by_cases hc : c = '.'
    · subst hc
      simp only [List.cons_append, takeWhile_append_apart hd hr]
    · simp [hc]

lemma stringTail?_append_of_some {s t : List Char} (h : stringTail? s = some t)
    (rest : List Char) : stringTail? (s ++ rest) = some t := by
  fun_induction stringTail? s generalizing t with
  | case1 => simp at h
  | case2 => simp at h
  | case3 c s ih =>
      obtain ⟨u, hu, rfl⟩ := Option.map_eq_some_iff.mp h
      simp [stringTail?, ih hu]
  | case4 c s hnil hcons hc =>
      have hne := ne_backslash hnil hcons
      rw [List.cons_append, stringTail?_cons hne, if_pos hc, h]
  | case5 c s hnil hcons hc ih =>
      have hne := ne_backslash hnil hcons
      obtain ⟨u, hu, rfl⟩ := Option.map_eq_some_iff.mp h
      rw [List.cons_append, stringTail?_cons hne, if_neg hc, ih hu, Option.map_some]

/-- A string that ends within the text ends there whatever follows the text. -/
lemma stringTail?_of_append {s t : List Char} (h : stringTail? (s ++ rest) = some t)
    (hlen : t.length ≤ s.length) : stringTail? s = some t := by
  have hpos : 0 < t.length := List.length_pos_iff.mpr (stringTail?_isPrefix h).2
  fun_induction stringTail? s generalizing t with
  | case1 =>
      simp only [List.length_nil] at hlen
      omega
  | case2 =>
      -- the backslash takes a character after the text with it
      cases rest with
      | nil => simp [stringTail?] at h
      | cons c rest =>
          obtain ⟨u, hu, rfl⟩ := Option.map_eq_some_iff.mp h
          simp at hlen
  | case3 c s ih =>
      obtain ⟨u, hu, rfl⟩ := Option.map_eq_some_iff.mp h
      have hupos : 0 < u.length := List.length_pos_iff.mpr (stringTail?_isPrefix hu).2
      rw [ih hu (by simpa using hlen) hupos, Option.map_some]
  | case4 c s hnil hcons hc =>
      have hne := ne_backslash hnil hcons
      rwa [List.cons_append, stringTail?_cons hne, if_pos hc] at h
  | case5 c s hnil hcons hc ih =>
      have hne := ne_backslash hnil hcons
      rw [List.cons_append, stringTail?_cons hne, if_neg hc] at h
      obtain ⟨u, hu, rfl⟩ := Option.map_eq_some_iff.mp h
      have hupos : 0 < u.length := List.length_pos_iff.mpr (stringTail?_isPrefix hu).2
      rw [ih hu (by simpa using hlen) hupos, Option.map_some]

/-- A piece that lies within a text is the same whatever follows the text at a distance from it. -/
lemma pieceAt?_append_iff (hr : Apart rest) {depth : ℕ} {c : Char} {s p : List Char}
    {kind : TokenKind} (hp : p.length ≤ s.length + 1) :
    pieceAt? isName depth c (s ++ rest) = some (kind, p) ↔
      pieceAt? isName depth c s = some (kind, p) := by
  have hnumber : numberAt (c :: (s ++ rest)) = numberAt (c :: s) := numberAt_append hr (c :: s)
  have hword : (s ++ rest).takeWhile isWordChar = s.takeWhile isWordChar :=
    takeWhile_append_apart (fun _ h => h) hr s
  simp only [pieceAt?, hnumber, hword]
  split
  · rfl
  · split
    · rfl
    · split
      · rfl
      · split
        · simp only [Option.map_eq_some_iff]
          constructor
          · rintro ⟨t, ht, heq⟩
            simp only [Prod.mk.injEq] at heq
            obtain ⟨rfl, rfl⟩ := heq
            exact ⟨t, stringTail?_of_append ht (by simpa using hp), rfl⟩
          · rintro ⟨t, ht, heq⟩
            exact ⟨t, stringTail?_append_of_some ht rest, heq⟩
        · rfl

end

/-! ### Cuts -/

lemma Cut.spelling_append {st : ScanState} {cs rest : List Char} {ps : List Piece}
    (h : Cut isName st cs ps rest) : cs = spelling ps ++ rest := by
  induction h with
  | done => rfl
  | @piece st c s p after rest kind ps hp hs _ ih => rw [hs, ih, spelling_cons, List.append_assoc]

lemma Cut.append {st : ScanState} {cs mid rest : List Char} {ps qs : List Piece}
    (h : Cut isName st cs ps mid) (h' : Cut isName (st.afterAll (ps.map Prod.fst)) mid qs rest) :
    Cut isName st cs (ps ++ qs) rest := by
  induction h with
  | done => exact h'
  | piece hp hs _ ih => exact .piece hp hs (ih h')

lemma Cut.split {st : ScanState} {cs rest : List Char} {ps qs : List Piece}
    (h : Cut isName st cs (ps ++ qs) rest) :
    ∃ mid, Cut isName st cs ps mid ∧ Cut isName (st.afterAll (ps.map Prod.fst)) mid qs rest := by
  induction ps generalizing st cs with
  | nil => exact ⟨cs, .done, h⟩
  | cons piece ps ih =>
      cases h with
      | piece hp hs hrest =>
          obtain ⟨mid, hmid, hqs⟩ := ih hrest
          exact ⟨mid, .piece hp hs hmid, hqs⟩

/-- Every piece has one of the forms of pieces. -/
lemma Cut.form {st : ScanState} {cs rest : List Char} {ps : List Piece}
    (h : Cut isName st cs ps rest) :
    ∀ piece ∈ ps, ∃ depth c s, PieceForm isName depth c s piece.1 piece.2 := by
  induction h with
  | done => simp
  | @piece st c s p after rest kind ps hp hs _ ih =>
      intro piece hpiece
      rcases List.mem_cons.mp hpiece with rfl | hpiece
      · exact ⟨st.depth, c, s, pieceAt?_form hp⟩
      · exact ih piece hpiece

/-- No piece is the final mark. -/
lemma Cut.kind_ne_ending {st : ScanState} {cs rest : List Char} {ps : List Piece}
    (h : Cut isName st cs ps rest) {position : ℕ} : ∀ t ∈ place position ps, t.kind ≠ .ending := by
  intro t ht
  obtain ⟨p, hp, -⟩ := mem_place ht
  obtain ⟨depth, c, s, hform⟩ := h.form _ hp
  exact hform.kind_ne_ending

/-- The first token of a text is its first piece. -/
lemma Cut.first {position : ℕ} {st : ScanState} {cs : List Char} {ps : List Piece} {t : Token}
    {ts : List Token} (h : Cut isName st cs ps []) (hts : place position ps = t :: ts) :
    ∃ c q mid rs, t.text = String.ofList (c :: q) ∧ cs = c :: (q ++ mid) ∧
      pieceAt? isName st.depth c (q ++ mid) = some (t.kind, c :: q) ∧
      Cut isName (st.after t.kind) mid rs [] ∧ place (position + (c :: q).length) rs = ts := by
  obtain ⟨kind, p, rs, rfl, rfl, rfl⟩ := place_eq_cons hts
  cases h with
  | @piece _ c s _ mid _ _ _ hp hs hrest =>
      obtain ⟨q, rfl, -⟩ := (pieceAt?_form hp).start
      obtain rfl : s = q ++ mid := by simpa using hs
      exact ⟨c, q, mid, rs, rfl, rfl, hp, hrest, rfl⟩

/-- After a first call word, the state in which the scanner began is forgotten up to its depth. -/
lemma Cut.restart {st st' : ScanState} {cs p rest : List Char} {ps : List Piece}
    (h : Cut isName st cs ((.call, p) :: ps) rest) (hd : st.depth = st'.depth) :
    Cut isName st' cs ((.call, p) :: ps) rest := by
  cases h with
  | piece hp hs hrest =>
      rw [hd] at hp
      refine .piece hp hs ?_
      simpa [ScanState.after, hd] using hrest

lemma scan_nil {r : Except UnterminatedString (List Token)} {tokens : List Token} {position : ℕ}
    {st : ScanState} (hr : r = .ok [⟨.ending, "", position⟩]) :
    r = .ok tokens ↔ ∃ ps, Cut isName st [] ps [] ∧
      tokens = place position ps ++ [⟨.ending, "", position + ([] : List Char).length⟩] := by
  subst hr
  simp only [Except.ok.injEq]
  constructor
  · rintro rfl
    exact ⟨[], .done, rfl⟩
  · rintro ⟨ps, hcut, rfl⟩
    cases hcut
    rfl

/-- The scanner gives the pieces of a text as tokens, and the final mark. -/
lemma scanFrom_eq_ok_iff {fuel position : ℕ} {st : ScanState} {cs : List Char}
    {tokens : List Token} (hf : cs.length ≤ fuel) :
    scanFrom isName fuel st position cs = .ok tokens ↔
      ∃ ps, Cut isName st cs ps [] ∧
        tokens = place position ps ++ [⟨.ending, "", position + cs.length⟩] := by
  induction fuel generalizing st position cs tokens with
  | zero =>
      obtain rfl := List.eq_nil_of_length_eq_zero (Nat.le_zero.mp hf)
      exact scan_nil rfl
  | succ fuel ih =>
      cases cs with
      | nil => exact scan_nil rfl
      | cons c s =>
          rw [scanFrom]
          split
          · next hp =>
              simp only [reduceCtorEq, false_iff, not_exists, not_and]
              intro ps hcut
              cases hcut with
              | piece hp' => simp [hp] at hp'
          · next kind p hp =>
              obtain ⟨q, rfl, t, rfl⟩ := (pieceAt?_form hp).start
              have hdrop : (c :: (q ++ t)).drop (c :: q).length = t := by simp
              have hlen : t.length ≤ fuel := by
                simp only [List.length_cons, List.length_append] at hf
                omega
              have hend : position + (c :: q).length + t.length =
                  position + (c :: (q ++ t)).length := by
                simp only [List.length_cons, List.length_append]
                omega
              rw [hdrop, except_bind_eq_ok]
              simp only [ih hlen, pure, Except.pure, Except.ok.injEq, hend]
              constructor
              · rintro ⟨_, ⟨ps, hcut, rfl⟩, rfl⟩
                exact ⟨(kind, c :: q) :: ps, .piece hp rfl hcut, rfl⟩
              · rintro ⟨ps, hcut, rfl⟩
                cases hcut with
                | @piece _ _ _ _ after _ _ ps hp' hs hrest =>
                    obtain ⟨rfl, rfl⟩ : kind = _ ∧ c :: q = _ := by simpa [hp] using hp'
                    obtain rfl : t = after := by simpa using hs
                    exact ⟨_, ⟨ps, hrest, rfl⟩, rfl⟩

/-- The tokens of a text are its pieces and the final mark. -/
lemma tokenize_eq_ok_iff {text : String} {tokens : List Token} :
    tokenize isName text = .ok tokens ↔
      ∃ ps, Cut isName ⟨0, false⟩ text.toList ps [] ∧
        tokens = place 0 ps ++ [⟨.ending, "", text.length⟩] := by
  rw [tokenize, scanFrom_eq_ok_iff (String.length_toList).le, String.length_toList, Nat.zero_add]

/-- The number of steps does not matter once it is the length of the text. -/
lemma scanFrom_fuel {fuel fuel' position : ℕ} {st : ScanState} {cs : List Char}
    (h : cs.length ≤ fuel) (h' : cs.length ≤ fuel') :
    scanFrom isName fuel st position cs = scanFrom isName fuel' st position cs := by
  induction fuel generalizing fuel' st position cs with
  | zero =>
      obtain rfl := List.eq_nil_of_length_eq_zero (Nat.le_zero.mp h)
      cases fuel' <;> rfl
  | succ fuel ih =>
      cases cs with
      | nil => cases fuel' <;> rfl
      | cons c s =>
          obtain ⟨fuel', rfl⟩ : ∃ n, fuel' = n + 1 :=
            Nat.exists_eq_succ_of_ne_zero (Nat.ne_of_gt (Nat.lt_of_lt_of_le (by simp) h'))
          rw [scanFrom, scanFrom]
          cases hp : pieceAt? isName st.depth c s with
          | none => rfl
          | some piece =>
              obtain ⟨kind, p⟩ := piece
              obtain ⟨q, rfl, t, rfl⟩ := (pieceAt?_form hp).start
              have hdrop : (c :: (q ++ t)).drop (c :: q).length = t := by simp
              simp only [List.length_cons, List.length_append] at h h'
              simp only [hdrop, @ih fuel' _ _ t (by omega) (by omega)]

/-- What the scanner gives for the text that remains after pieces. -/
lemma Cut.scanFrom_eq {st : ScanState} {cs rest : List Char} {ps : List Piece}
    (h : Cut isName st cs ps rest) {fuel position : ℕ} (hf : cs.length ≤ fuel) :
    scanFrom isName fuel st position cs =
      (scanFrom isName rest.length (st.afterAll (ps.map Prod.fst))
        (position + (spelling ps).length) rest).map (place position ps ++ ·) := by
  induction h generalizing fuel position with
  | @done st rest =>
      rw [scanFrom_fuel hf le_rfl]
      exact congrFun Except.map_id.symm _
  | @piece st c s p after rest kind ps hp hs hrest ih =>
      obtain ⟨q, rfl, -⟩ := (pieceAt?_form hp).start
      obtain rfl : s = q ++ after := by simpa using hs
      obtain ⟨fuel, rfl⟩ : ∃ n, fuel = n + 1 :=
        Nat.exists_eq_succ_of_ne_zero (Nat.ne_of_gt (Nat.lt_of_lt_of_le (by simp) hf))
      have hdrop : (c :: (q ++ after)).drop (c :: q).length = after := by simp
      simp only [List.length_cons, List.length_append] at hf
      rw [scanFrom, hp]
      simp only [hdrop, @ih fuel (position + (c :: q).length) (by omega), List.map_cons,
        afterAll_cons, spelling_cons, List.length_append, Nat.add_assoc, place]
      cases scanFrom isName rest.length _ _ rest <;> rfl

/-! ### Pieces that end with a mark -/

lemma apart_mark {x : Char} (hx : ¬ isWordChar x) (rest : List Char) : Apart (x :: rest) := by
  intro y hy
  obtain rfl : x = y := by simpa using hy
  exact hx

lemma Cut.closing_text {st : ScanState} {cs p rest : List Char} {ps : List Piece}
    (h : Cut isName st cs ps rest) (hp : (.closing, p) ∈ ps) : p = [')'] := by
  obtain ⟨depth, c, s, hform⟩ := h.form _ hp
  exact hform.closing.2

/-- The pieces up to a mark or a blank are the same whatever follows it. -/
lemma Cut.relocate_mark {x : Char} {kind : TokenKind} {st : ScanState} {cs rest : List Char}
    {ps : List Piece} (h : Cut isName st cs (ps ++ [(kind, [x])]) rest) (hword : ¬ isWordChar x)
    (hx : ∀ depth s, pieceAt? isName depth x s = some (kind, [x])) (rest' : List Char) :
    Cut isName st (spelling (ps ++ [(kind, [x])]) ++ rest') (ps ++ [(kind, [x])]) rest' := by
  induction ps generalizing st cs with
  | nil => exact .piece (hx _ _) rfl .done
  | cons piece ps ih =>
      rw [List.cons_append] at h
      cases h with
      | @piece _ c s q after _ first _ hp hs hrest =>
          obtain ⟨q', rfl, t, rfl⟩ := (pieceAt?_form hp).start
          obtain rfl : t = after := by simpa using hs
          have hspell (u : List Char) : q' ++ (spelling (ps ++ [(kind, [x])]) ++ u) =
              q' ++ spelling ps ++ x :: u := by simp
          rw [hrest.spelling_append, hspell] at hp
          have hlen : (c :: q').length ≤ (q' ++ spelling ps).length + 1 := by simp
          rw [pieceAt?_append_iff (apart_mark hword rest) hlen,
            ← pieceAt?_append_iff (apart_mark hword rest') hlen, ← hspell] at hp
          simpa using Cut.piece hp rfl (ih hrest)

/-- The pieces up to a closing parenthesis are the same whatever follows it. -/
lemma Cut.relocate {st : ScanState} {cs p rest : List Char} {ps : List Piece}
    (h : Cut isName st cs (ps ++ [(.closing, p)]) rest) (rest' : List Char) :
    Cut isName st (spelling (ps ++ [(.closing, p)]) ++ rest') (ps ++ [(.closing, p)]) rest' := by
  obtain rfl : p = [')'] := h.closing_text (by simp)
  exact h.relocate_mark (by decide) (fun _ _ => rfl) rest'

/-! ### Free text -/

/-- Outside of arguments there are no strings, so every text begins with a piece. -/
lemma exists_pieceAt?_zero (isName : String → Bool) (c : Char) (s : List Char) :
    ∃ kind p, pieceAt? isName 0 c s = some (kind, p) := by
  unfold pieceAt?
  split
  · exact ⟨_, _, rfl⟩
  · split
    · exact ⟨_, _, rfl⟩
    · split
      · exact ⟨_, _, rfl⟩
      · simp

lemma after_zero {kind : TokenKind} (h : kind ≠ .call) :
    (⟨0, false⟩ : ScanState).after kind = ⟨0, false⟩ := by
  cases kind <;> simp_all [ScanState.after]

/-- Outside of arguments, free text is cut into words, numbers, blanks and marks, and the scanner
stays outside. -/
lemma exists_cut_of_free (isName : String → Bool) {rest : List Char} (hrest : Apart rest)
    {t : List Char} (ht : sigil ∉ t) :
    ∃ ps, Cut isName ⟨0, false⟩ (t ++ rest) ps rest ∧ spelling ps = t ∧
      (∀ piece ∈ ps, piece.1 ≠ .call) := by
  induction hn : t.length using Nat.strong_induction_on generalizing t with
  | _ n ih =>
      cases t with
      | nil => exact ⟨[], .done, rfl, by simp⟩
      | cons c s =>
          obtain ⟨kind, p, hp⟩ := exists_pieceAt?_zero isName c s
          have hform := pieceAt?_form hp
          obtain ⟨q, rfl, u, rfl⟩ := hform.start
          have hlen : (c :: q).length ≤ (q ++ u).length + 1 := by simp
          rw [← pieceAt?_append_iff hrest hlen] at hp
          have hkind : kind ≠ .call := by
            rintro rfl
            obtain ⟨_, hsigil⟩ := sigil_of_isCallWord hform.call_word.1
            exact ht ((List.cons.inj hsigil).1 ▸ List.mem_cons_self)
          have hu : sigil ∉ u := fun h => ht (by simp [h])
          simp only [List.length_cons, List.length_append] at hn
          obtain ⟨ps, hcut, hspell, hkinds⟩ := ih u.length (by omega) hu rfl
          rw [← after_zero hkind] at hcut
          refine ⟨(kind, c :: q) :: ps, .piece hp (by simp) hcut, by simp [hspell], ?_⟩
          intro piece hpiece
          rcases List.mem_cons.mp hpiece with rfl | hpiece
          · exact hkind
          · exact hkinds piece hpiece

/-- Pieces without a call word leave the scanner outside of arguments. -/
lemma afterAll_zero {ps : List Piece} (h : ∀ piece ∈ ps, piece.1 ≠ .call) :
    (⟨0, false⟩ : ScanState).afterAll (ps.map Prod.fst) = ⟨0, false⟩ := by
  induction ps with
  | nil => rfl
  | cons piece ps ih =>
      rw [List.map_cons, afterAll_cons, after_zero (h piece (by simp))]
      exact ih fun q hq => h q (by simp [hq])

end Sigil
