/-
# Texts among the code points

A sequence of code points is a text exactly if it holds no surrogate.  The bytes of a text are those
of its characters, and a sequence with a surrogate has none.
-/
import Mathlib
import Sigil.Bytes.CodePoint

namespace Sigil

namespace CodePoint

lemma isSurrogate_iff {p : CodePoint} : p.isSurrogate ↔ 0xD800 ≤ p.val ∧ p.val ≤ 0xDFFF := by
  simp [isSurrogate]

@[simp] lemma isSurrogate_ofChar (c : Char) : (ofChar c).isSurrogate = false := by
  have hvalid := c.valid
  simp only [UInt32.isValidChar, Nat.isValidChar] at hvalid
  rw [Bool.eq_false_iff, ne_eq, isSurrogate_iff]
  simp only [ofChar, Char.toNat]
  omega

lemma char?_ofChar (c : Char) : (ofChar c).char? = some c := by
  rw [char?, isSurrogate_ofChar]
  exact congrArg some (Char.ofNat_toNat c)

lemma exists_ofChar {p : CodePoint} (h : p.isSurrogate = false) : ∃ c, ofChar c = p := by
  have hvalid : p.val.isValidChar := by
    have hp := p.isLt
    rw [Bool.eq_false_iff, ne_eq, isSurrogate_iff] at h
    rw [Nat.isValidChar]
    omega
  refine ⟨Char.ofNat p.val, Fin.ext ?_⟩
  exact (Char.toNat_ofNat p.val).trans (if_pos hvalid)

end CodePoint

lemma codePoints_injective : Function.Injective codePoints := by
  have hchars : Function.Injective CodePoint.ofChar := fun c d h =>
    Option.some.inj ((CodePoint.char?_ofChar c).symm.trans (h ▸ CodePoint.char?_ofChar d))
  exact fun s t h => String.toList_inj.mp (hchars.list_map h)

/-- The code points without surrogates are those of a text. -/
lemma exists_codePoints {s : List CodePoint} (h : ∀ p ∈ s, p.isSurrogate = false) :
    ∃ text, codePoints text = s := by
  induction s with
  | nil => exact ⟨"", rfl⟩
  | cons p rest ih =>
      obtain ⟨hp, hrest⟩ := List.forall_mem_cons.mp h
      obtain ⟨c, rfl⟩ := CodePoint.exists_ofChar hp
      obtain ⟨text, rfl⟩ := ih hrest
      exact ⟨String.ofList (c :: text.toList), by simp [codePoints]⟩

namespace Bytes

lemma utf8From_ofChar (position : ℕ) (cs : List Char) (rest : List CodePoint) :
    utf8From position (cs.map CodePoint.ofChar ++ rest) =
      (utf8From (position + cs.length) rest).map (cs.flatMap String.utf8EncodeChar ++ ·) := by
  induction cs generalizing position with
  | nil => cases h : utf8From position rest <;> simp [h, Except.map]
  | cons c cs ih =>
      rw [List.map_cons, List.cons_append, utf8From, CodePoint.char?_ofChar]
      simp only [ih, List.length_cons, Nat.add_assoc, Nat.add_comm 1]
      cases utf8From (position + (cs.length + 1)) rest <;> simp [Except.map]

lemma ofCodePoints_codePoints (text : String) :
    ofCodePoints (codePoints text) = .ok (ofText text) := by
  have h := utf8From_ofChar 0 text.toList []
  rw [List.append_nil] at h
  rw [ofCodePoints, codePoints, h]
  simp [utf8From, Except.map, ofText]

/-- The first surrogate after a text is a fault that tells of its place. -/
lemma ofCodePoints_surrogate (text : String) {p : CodePoint} (hp : p.isSurrogate)
    (rest : List CodePoint) : ofCodePoints (codePoints text ++ p :: rest) =
      .error (surrogateFault text.length p (rest.takeWhile CodePoint.isSurrogate).length) := by
  rw [ofCodePoints, codePoints, utf8From_ofChar, utf8From, CodePoint.char?, if_pos hp, Nat.zero_add,
    String.length_toList]
  rfl

/-- Code points with a surrogate have no bytes. -/
lemma exists_encoding_fault {s : List CodePoint} (h : ∃ p ∈ s, p.isSurrogate) :
    ∃ f : Fault, f.kind = .encoding ∧ ofCodePoints s = .error f := by
  obtain ⟨p, hfind⟩ := Option.isSome_iff_exists.mp (List.find?_isSome.mpr h)
  obtain ⟨hp, before, after, rfl, hbefore⟩ := List.find?_eq_some_iff_append.mp hfind
  obtain ⟨text, rfl⟩ := exists_codePoints (s := before) (by simpa using hbefore)
  exact ⟨_, rfl, ofCodePoints_surrogate text hp after⟩

end Bytes

end Sigil
