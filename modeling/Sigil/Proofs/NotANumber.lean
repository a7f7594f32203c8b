/-
# The word for what is not a number

A float is what is not a number only where its text spells the word: no digits, however large or
small the number they stand for, are read as that.  The word may be signed and in capital letters.
-/
import Mathlib
import Sigil.Library.Function
import Sigil.Proofs.LowerCase

namespace Sigil

/-! ### Letters -/

namespace Text

/-- The run maps no code point to the given one. -/
def CaseRun.misses (m : ℕ) : CaseRun → Bool
  | (first, last, _, shift) => Nat.blt m (first + shift).toNat || Nat.blt (last + shift).toNat m

lemma CaseRun.image?_ne_of_misses {r : CaseRun} {m : ℕ} (h : r.misses m) (n : ℕ) :
    r.image? n ≠ some m := by
  obtain ⟨first, last, step, shift⟩ := r
  simp only [misses, Bool.or_eq_true, Nat.blt_eq] at h
  simp only [image?, Bool.and_eq_true, decide_eq_true_eq, beq_iff_eq, ne_eq,
    Option.ite_none_right_eq_some, Option.some.injEq, not_and]
  omega

/-- Only the run of ASCII leads to the letters of the word. -/
lemma misses_of_mem_lowerRuns :
    (lowerRuns.all fun r => Nat.blt r.2.1 0x80 || (r.misses 0x61 && r.misses 0x6E)) = true := by
  decide +kernel

lemma mem_of_toLower : ∀ n < 0x80,
    ((Char.ofNat n).toLower = 'a' → Char.ofNat n ∈ ['a', 'A']) ∧
      ((Char.ofNat n).toLower = 'n' → Char.ofNat n ∈ ['n', 'N']) := by
  decide +kernel

/-- Beyond ASCII, no run leads to a letter of the word. -/
lemma ne_letter_of_findSome? {n m : ℕ} (hn : ¬ n < 0x80)
    (h : lowerRuns.findSome? (·.image? n) = some m) : m ≠ 0x61 ∧ m ≠ 0x6E := by
  obtain ⟨r, hr, hm⟩ := List.exists_of_findSome?_eq_some h
  have hmisses := List.all_eq_true.mp misses_of_mem_lowerRuns r hr
  simp only [Bool.or_eq_true, Nat.blt_eq, Bool.and_eq_true] at hmisses
  rcases hmisses with hascii | ⟨ha, hn'⟩
  · obtain ⟨first, last, step, shift⟩ := r
    simp only [CaseRun.image?, Bool.and_eq_true, decide_eq_true_eq,
      Option.ite_none_right_eq_some] at hm
    exact absurd (lt_of_le_of_lt hm.1.1.2 hascii) hn
  · constructor
    · rintro rfl
      exact r.image?_ne_of_misses ha _ hm
    · rintro rfl
      exact r.image?_ne_of_misses hn' _ hm

/-- The letters of the word are the lower case of ASCII alone. -/
lemma ascii_of_lowerChar {c : Char} (h : lowerChar c = 'a' ∨ lowerChar c = 'n') :
    c.toNat < 0x80 := by
  by_contra hbeyond
  unfold lowerChar at h
  rw [if_neg hbeyond] at h
  split at h
  · exact absurd h (by decide)
  · cases hfind : lowerRuns.findSome? (·.image? c.toNat) with
    | none =>
        simp only [hfind, Option.map_none, Option.getD_none] at h
        rcases h with rfl | rfl <;> exact hbeyond (by decide)
    | some m =>
        simp only [hfind, Option.map_some, Option.getD_some] at h
        have hcode : m = 0x61 ∨ m = 0x6E := by
          have hofNat : (Char.ofNat m).toNat = 0x61 ∨ (Char.ofNat m).toNat = 0x6E :=
            h.imp (congrArg Char.toNat) (congrArg Char.toNat)
          rw [Char.toNat_ofNat] at hofNat
          split at hofNat
          · exact hofNat
          · exact absurd hofNat (by decide)
        obtain ⟨ha, hn⟩ := ne_letter_of_findSome? hbeyond hfind
        exact hcode.elim ha hn

lemma mem_of_lowerChar {c d : Char} (hd : d = 'a' ∨ d = 'n') (h : lowerChar c = d) :
    c ∈ [d, d.toUpper] := by
  have hascii : c.toNat < 0x80 := ascii_of_lowerChar (hd.imp h.trans h.trans)
  have hletters := mem_of_toLower c.toNat hascii
  rw [lowerChar, if_pos hascii] at h
  rw [Char.ofNat_toNat] at hletters
  rcases hd with rfl | rfl
  · exact hletters.1 h
  · exact hletters.2 h

/-- A text whose lower case begins with a letter of the word begins with that letter. -/
lemma lowerFrom_eq_cons {before s t : List Char} {d : Char} (hd : d = 'a' ∨ d = 'n')
    (h : lowerFrom before s = d :: t) :
    ∃ c s', s = c :: s' ∧ lowerChar c = d ∧ lowerFrom (c :: before) s' = t := by
  cases s with
  | nil => simp [lowerFrom] at h
  | cons c s =>
      rw [lowerFrom] at h
      rcases lowerAt_cases before c s with (hat | hat | hat) | ⟨-, -, hat⟩ <;>
        rw [hat, List.cons_append, List.cons.injEq] at h
      · rcases hd with rfl | rfl <;> exact absurd h.1 (by decide)
      · rcases hd with rfl | rfl <;> exact absurd h.1 (by decide)
      · rcases hd with rfl | rfl <;> exact absurd h.1 (by decide)
      · exact ⟨c, s, rfl, h.1, h.2⟩

lemma eq_nil_of_lowerFrom {before s : List Char} (h : lowerFrom before s = []) : s = [] := by
  cases s with
  | nil => rfl
  | cons c s =>
      rw [lowerFrom, List.append_eq_nil_iff] at h
      rcases lowerAt_cases before c s with (hat | hat | hat) | ⟨-, -, hat⟩ <;>
        rw [hat] at h <;> simp at h

end Text

/-! ### The word -/

namespace Decimal

open Text (lower isDigit isBlank strip)

/-- The ways to write the word for what is not a number, in small and capital letters. -/
def spellings : List (List Char) :=
  ['n', 'N'].flatMap fun c₁ => ['a', 'A'].flatMap fun c₂ => ['n', 'N'].map fun c₃ => [c₁, c₂, c₃]

/-- The ways to write the word with or without a sign. -/
def signedSpellings : List (List Char) :=
  spellings ++ spellings.map ('+' :: ·) ++ spellings.map ('-' :: ·)

lemma mem_spellings {s : List Char} (h : lower s = ['n', 'a', 'n']) : s ∈ spellings := by
  obtain ⟨c₁, s₁, rfl, h₁, htail⟩ := Text.lowerFrom_eq_cons (.inr rfl) h
  obtain ⟨c₂, s₂, rfl, h₂, htail⟩ := Text.lowerFrom_eq_cons (.inl rfl) htail
  obtain ⟨c₃, s₃, rfl, h₃, htail⟩ := Text.lowerFrom_eq_cons (.inr rfl) htail
  obtain rfl := Text.eq_nil_of_lowerFrom htail
  rw [spellings, List.mem_flatMap]
  refine ⟨c₁, Text.mem_of_lowerChar (.inr rfl) h₁, ?_⟩
  rw [List.mem_flatMap]
  refine ⟨c₂, Text.mem_of_lowerChar (.inl rfl) h₂, ?_⟩
  exact List.mem_map.mpr ⟨c₃, Text.mem_of_lowerChar (.inr rfl) h₃, rfl⟩

lemma eq_or_eq_of_takeSign (t : List Char) :
    t = (takeSign t).2 ∨ t = '+' :: (takeSign t).2 ∨ t = '-' :: (takeSign t).2 := by
  unfold takeSign
  split <;> simp

lemma mem_signedSpellings {t : List Char} (h : lower (takeSign t).2 = ['n', 'a', 'n']) :
    t ∈ signedSpellings := by
  have hbody := mem_spellings h
  simp only [signedSpellings, List.mem_append, List.mem_map]
  rcases eq_or_eq_of_takeSign t with ht | ht | ht
  · exact .inl (.inl (ht ▸ hbody))
  · exact .inl (.inr ⟨_, hbody, ht.symm⟩)
  · exact .inr ⟨_, hbody, ht.symm⟩

/-- However it is written, the word is read as what is not a number. -/
lemma readFloat?_of_mem : ∀ t ∈ signedSpellings,
    isPlainInteger t = false ∧ readFloat? (String.ofList t) = some Float.nan := by
  decide +kernel

lemma not_isDigit_of_mem : ∀ t ∈ signedSpellings, t.all fun c => !isDigit c := by
  decide +kernel

/-- A low line that is allowed has a digit behind it. -/
lemma exists_isDigit_of_separatesDigits {s : List Char} {afterDigit : Bool}
    (h : separatesDigits afterDigit s) (hmem : '_' ∈ s) : ∃ c ∈ s, isDigit c := by
  induction s generalizing afterDigit with
  | nil => simp at hmem
  | cons c s ih =>
      by_cases hc : c = '_'
      · subst hc
        cases s with
        | nil => simp [separatesDigits] at h
        | cons d s =>
            simp only [separatesDigits, Bool.and_eq_true] at h
            exact ⟨d, by simp, h.1.2⟩
      · have hrest : separatesDigits (isDigit c) s := by simpa [separatesDigits, hc] using h
        obtain ⟨d, hd, hdigit⟩ := ih hrest ((List.mem_cons.mp hmem).resolve_left (Ne.symm hc))
        exact ⟨d, List.mem_cons_of_mem c hd, hdigit⟩

/-- A low line would stand before a digit, and the word has none. -/
lemma line_not_mem_of_mem {t : List Char} {afterDigit : Bool} (h : separatesDigits afterDigit t)
    (hword : t.filter (· != '_') ∈ signedSpellings) : '_' ∉ t := by
  intro hmem
  obtain ⟨c, hc, hdigit⟩ := exists_isDigit_of_separatesDigits h hmem
  have hne : c ≠ '_' := fun h => absurd (h ▸ hdigit) (by decide)
  have hkept : c ∈ t.filter (· != '_') := List.mem_filter.mpr ⟨hc, by simpa using hne⟩
  have hall := List.all_eq_true.mp (not_isDigit_of_mem _ hword) c hkept
  simp [hdigit] at hall

/-- No blanks are left around a text for the reading of a numeral. -/
lemma stripNumeral_strip (s : List Char) : stripNumeral (strip s) = strip s := by
  -- what is left when blanks are dropped has none to drop again
  have hdrop (t : List Char) :
      (t.dropWhile isBlank).dropWhile isNumeralBlank = t.dropWhile isBlank := by
    induction t with
    | nil => rfl
    | cons c t ih =>
        by_cases hc : isBlank c
        · rwa [List.dropWhile_cons_of_pos hc]
        · rw [List.dropWhile_cons_of_neg hc,
            List.dropWhile_cons_of_neg (by simp [isNumeralBlank, hc])]
  have hleft : (strip s).dropWhile isNumeralBlank = strip s := by
    cases hs : strip s with
    | nil => rfl
    | cons c u =>
        obtain ⟨v, hv⟩ : strip s <+: s.dropWhile isBlank := List.rdropWhile_prefix isBlank _
        have hd := hdrop s
        rw [← hv, hs, List.cons_append] at hd
        have hc : ¬ isNumeralBlank c := fun hc => by
          have hlength := congrArg List.length hd
          rw [List.dropWhile_cons_of_pos hc, List.length_cons] at hlength
          have := (List.dropWhile_sublist isNumeralBlank (l := u ++ v)).length_le
          omega
        rw [List.dropWhile_cons_of_neg hc]
  rw [stripNumeral, hleft]
  simp only [strip, Text.stripRight, List.reverse_reverse, hdrop]

/-! ### Floats -/

section

open Float.Model (UnpackedFloat Format)
open Float.Model.UnpackedFloat

variable {spec : Format} {u : UnpackedFloat}

lemma pack_eq_packedNaN_iff : u.pack .binary64 = packedNaN .binary64 ↔ u = .notANumber := by
  refine ⟨fun h => ?_, fun h => by rw [h]; rfl⟩
  -- the exponent of what is not a number is all ones, and its mantissa is not zero
  have hexponent : unpackExponent (u.pack .binary64) = -1#11 := by
    rw [h, packedNaN, unpackExponent_packComponents]
  have hmantissa : unpackMantissa (u.pack .binary64) ≠ 0#52 := by
    rw [h, packedNaN, unpackMantissa_packComponents]
    decide
  cases u with
  | notANumber => rfl
  | infinity s => exact absurd unpackMantissa_packComponents hmantissa
  | zero s => exact absurd unpackMantissa_packComponents hmantissa
  | finite s m e hm =>
      simp only [pack] at hexponent hmantissa
      split at hexponent
      · next hover =>
          rw [if_pos hover] at hmantissa
          exact absurd unpackMantissa_packComponents hmantissa
      · next hover =>
          split at hexponent <;> rw [unpackExponent_packComponents] at hexponent
          · have hfield := congrArg BitVec.toNat hexponent
            rw [BitVec.toNat_ofNat, Nat.mod_eq_of_lt (by omega)] at hfield
            simp at hfield hover
            omega
          · exact absurd hexponent (by decide)

lemma ofModel_pack_eq_nan_iff : Float.ofModel (.pack u) = Float.nan ↔ u = .notANumber := by
  rw [← pack_eq_packedNaN_iff, ← Float.toBits_inj, ← UInt64.toBitVec_inj]
  rfl

lemma unpack_eq_notANumber_iff {x : Float} : x.toModel.unpack = .notANumber ↔ x = Float.nan := by
  rw [← Float.toBits_inj, ← UInt64.toBitVec_inj]
  exact unpack_eq_notANumber_iff_of_valid x.toModel.valid

lemma roundWithAccuracy_ne_notANumber (s : Sign) (m : ℕ) (e : ℤ) (a : Accuracy) :
    roundWithAccuracy spec s m e a ≠ .notANumber := by
  simp only [roundWithAccuracy]
  split <;> simp

lemma normalize_ne_notANumber (m e : ℤ) (s : Sign) :
    UnpackedFloat.normalize spec m e s ≠ .notANumber := by
  unfold UnpackedFloat.normalize
  split
  · exact roundWithAccuracy_ne_notANumber _ _ _ _
  · simp
  · exact roundWithAccuracy_ne_notANumber _ _ _ _

variable (s : Sign) (m : ℕ) (e : ℤ) (hm : 0 < m)

lemma mul_finite_ne_notANumber (hu : u ≠ .notANumber) :
    mul spec u (.finite s m e hm) ≠ .notANumber := by
  cases u with
  | notANumber => exact absurd rfl hu
  | infinity | zero => simp [mul]
  | finite => exact roundWithAccuracy_ne_notANumber _ _ _ _

lemma div_finite_ne_notANumber (hu : u ≠ .notANumber) :
    div spec u (.finite s m e hm) ≠ .notANumber := by
  cases u with
  | notANumber => exact absurd rfl hu
  | infinity | zero => simp [div]
  | finite => exact roundWithAccuracy_ne_notANumber _ _ _ _

lemma ofScientific_ne_notANumber : ofScientific .binary64 m e ≠ .notANumber := by
  unfold ofScientific
  split_ifs
  · simp
  · simp
  · simp
  · exact mul_finite_ne_notANumber _ _ _ _ nofun
  · exact div_finite_ne_notANumber _ _ _ _ nofun

/-- The small powers of ten are finite floats other than zero. -/
lemma exists_unpack_powerOfTen : ∀ e (h : e < Float.exactlyRepresentablePowersOfTen.size),
    ∃ s m i hm, Float.exactlyRepresentablePowersOfTen[e].toModel.unpack = .finite s m i hm := by
  have hall : ∀ x ∈ Float.exactlyRepresentablePowersOfTen,
      x.toModel.unpack matches .finite .. := by
    decide +kernel
  intro e h
  have hx := hall _ (Array.getElem_mem h)
  split at hx
  · exact ⟨_, _, _, _, ‹_›⟩
  · exact absurd hx (by simp)

lemma ofScientific_ne_nan (m : ℕ) (b : Bool) (e : ℕ) : Float.ofScientific m b e ≠ Float.nan := by
  unfold Float.ofScientific
  split
  · next h =>
      have hm : m.toUInt64.toFloat.toModel.unpack ≠ .notANumber :=
        mt (unpack_eq_notANumber_iff.trans ofModel_pack_eq_nan_iff).mp
          (normalize_ne_notANumber _ _ _)
      have he : e < Float.exactlyRepresentablePowersOfTen.size := Nat.lt_succ_of_le h.2
      obtain ⟨s, n, i, hn, hpower⟩ := exists_unpack_powerOfTen e he
      split
      · refine mt ofModel_pack_eq_nan_iff.mp ?_
        rw [hpower]
        exact div_finite_ne_notANumber _ _ _ _ hm
      · refine mt ofModel_pack_eq_nan_iff.mp ?_
        rw [hpower]
        exact mul_finite_ne_notANumber _ _ _ _ hm
  · exact mt ofModel_pack_eq_nan_iff.mp (ofScientific_ne_notANumber _ _)

lemma neg_eq_nan_iff {x : Float} : -x = Float.nan ↔ x = Float.nan := by
  rw [← unpack_eq_notANumber_iff (x := x)]
  refine ofModel_pack_eq_nan_iff.trans ?_
  cases x.toModel.unpack <;> simp [neg]

/-- Digits with an exponent read as a number. -/
lemma nearestFloat_ne_nan (negative : Bool) (digits : ℕ) (exponent : ℤ) :
    nearestFloat negative digits exponent ≠ Float.nan := by
  unfold nearestFloat
  extract_lets lead x
  have hx : x ≠ Float.nan := by
    unfold x
    split_ifs
    · decide +kernel
    · decide +kernel
    · exact ofScientific_ne_nan _ _ _
  split
  · exact mt neg_eq_nan_iff.mp hx
  · exact hx

end

/-! ### Reading -/

lemma readUnsignedFloat_ne_nan (negative : Bool) (s : List Char) :
    readUnsignedFloat negative s ≠ some Float.nan := by
  unfold readUnsignedFloat
  extract_lets whole
  split
  split
  · simp
  · simp [nearestFloat_ne_nan]

/-- Only the word is read as what is not a number. -/
lemma readFloat?_eq_nan {t : List Char} (h : readFloat? (String.ofList t) = some Float.nan)
    (hstrip : stripNumeral t = t) : lower (takeSign t).2 = ['n', 'a', 'n'] := by
  simp only [readFloat?, String.toList_ofList, hstrip] at h
  split at h
  · simp at h
  · next hseparated =>
      split at h
      · have hinfinite (b : Bool) :
            Float.ofBits (if b then 0xFFF0000000000000 else 0x7FF0000000000000) ≠ Float.nan := by
          cases b <;> decide +kernel
        exact absurd (Option.some.inj h) (hinfinite _)
      · split at h
        · next hword =>
            have hfiltered : t.filter (· != '_') ∈ signedSpellings :=
              mem_signedSpellings (String.ofList_injective (beq_iff_eq.mp hword))
            have hline : '_' ∉ t := line_not_mem_of_mem (by simpa using hseparated) hfiltered
            have hself : t.filter (· != '_') = t :=
              List.filter_eq_self.mpr fun c hc => by
                simpa using fun h : c = '_' => hline (h ▸ hc)
            rw [hself] at hword
            exact String.ofList_injective (beq_iff_eq.mp hword)
        · exact absurd h (readUnsignedFloat_ne_nan _ _)

end Decimal

namespace Library

open Text (strip lower)

/-- The text spells what is not a number: blanks around the word, a sign before it and capital
letters do not matter. -/
def SpellsNaN (s : String) : Prop :=
  lower (Decimal.takeSign (strip s.toList)).2 = ['n', 'a', 'n']

/-- A text is read as an integer or as a float. -/
lemma number_text (s : String) :
    number (.text s) =
      if Decimal.isPlainInteger (strip s.toList) then
        ((Decimal.readInt (String.ofList (strip s.toList))).mapError (·.fault)).map .int
      else
        ((Decimal.readFloat (String.ofList (strip s.toList))).mapError (·.fault)).map .float := by
  simp only [number, Value.toText, bind, Except.bind]
  split
  · cases Decimal.readInt (String.ofList (strip s.toList)) <;> rfl
  · cases Decimal.readFloat (String.ofList (strip s.toList)) <;> rfl

lemma number_eq_nan_iff {s : String} :
    number (.text s) = .ok (.float Float.nan) ↔ SpellsNaN s := by
  rw [number_text]
  constructor
  · intro h
    split at h
    · cases hread : Decimal.readInt (String.ofList (strip s.toList)) <;> rw [hread] at h <;> cases h
    · refine Decimal.readFloat?_eq_nan ?_ (Decimal.stripNumeral_strip _)
      rw [Decimal.readFloat] at h
      split at h
      · next hfloat =>
          simp only [Except.mapError, Except.map, Except.ok.injEq, Number.float.injEq] at h
          exact hfloat.trans (congrArg some h)
      · simp [Except.mapError, Except.map] at h
  · intro h
    obtain ⟨hinteger, hfloat⟩ := Decimal.readFloat?_of_mem _ (Decimal.mem_signedSpellings h)
    rw [hinteger, Decimal.readFloat, hfloat]
    rfl

end Library

end Sigil
