/-
# Generated identifiers

An identifier that is generated, at random or by a digest, has its version and its form written into
places of its bytes that no digest and no chance can reach, so it is taken for an identifier of this
version.  A text that is taken for an identifier names a namespace, unless it ends with a line
break, which is allowed at the end of an identifier, but not in a namespace.
-/
import Sigil.Library.Identifiers
import Sigil.Proofs.Blocks
import Sigil.Proofs.HexDigits
import Sigil.Proofs.Steps

namespace Sigil

namespace Uuid

/-! ### Places of digits -/

/-- The places of the hyphens. -/
def IsHyphenPlace (i : ℕ) : Prop := i = 8 ∨ i = 13 ∨ i = 18 ∨ i = 23
deriving Decidable

lemma hasForm_iff {s : List Char} :
    hasForm s ↔ s.length = 36 ∧
      ∀ i c, s[i]? = some c → if IsHyphenPlace i then c = '-' else (Text.hexValue? c).isSome := by
  have hplace (i : ℕ) (c : Char) :
      (if i == 8 || i == 13 || i == 18 || i == 23 then c == '-' else (Text.hexValue? c).isSome) ↔
        if IsHyphenPlace i then c = '-' else (Text.hexValue? c).isSome := by
    by_cases hi : IsHyphenPlace i
    · have hi' : (i == 8 || i == 13 || i == 18 || i == 23) = true := by
        simpa [IsHyphenPlace, or_assoc] using hi
      simp [hi, hi']
    · have hi' : (i == 8 || i == 13 || i == 18 || i == 23) = false := by
        simpa [IsHyphenPlace, and_assoc] using hi
      simp [hi, hi']
  simp only [hasForm, Bool.and_eq_true, beq_iff_eq, List.all_eq_true, Prod.forall,
    List.mem_zipIdx_iff_getElem?, hplace]
  exact and_congr_right fun _ => forall_comm

/-- The characters of a group and of what follows it. -/
lemma getElem?_group {n : ℕ} {s t : List Char} (hn : n ≤ s.length) (i : ℕ) :
    (s.take n ++ '-' :: t)[i]? =
      if i < n then s[i]? else if i = n then some '-' else t[i - (n + 1)]? := by
  have hlength : (s.take n).length = n := by simpa using hn
  split
  · next hlt => rw [List.getElem?_append_left (by omega), List.getElem?_take_of_lt hlt]
  · next hge =>
      rw [List.getElem?_append_right (by omega), hlength]
      split
      · next heq => simp [heq]
      · next hne =>
          obtain ⟨k, hk⟩ : ∃ k, i - n = k + 1 := ⟨i - n - 1, by omega⟩
          have hrest : i - (n + 1) = k := by omega
          rw [hk, hrest, List.getElem?_cons_succ]

section

variable {ds : List Char} (hds : ds.length = 32)

include hds

/-- The characters of digits in the five groups. -/
lemma getElem?_hyphenated (i : ℕ) :
    (hyphenated groups ds)[i]? =
      if i < 8 then ds[i]? else if i = 8 then some '-'
      else if i - 9 < 4 then ds[8 + (i - 9)]? else if i - 9 = 4 then some '-'
      else if i - 14 < 4 then ds[12 + (i - 14)]? else if i - 14 = 4 then some '-'
      else if i - 19 < 4 then ds[16 + (i - 19)]? else if i - 19 = 4 then some '-'
      else ds[20 + (i - 24)]? := by
  have hgroups : hyphenated groups ds = ds.take 8 ++ '-' :: ((ds.drop 8).take 4 ++
      '-' :: ((ds.drop 12).take 4 ++ '-' :: ((ds.drop 16).take 4 ++ '-' :: ds.drop 20))) := by
    have hlast : (ds.drop 20).length = 12 := by rw [List.length_drop, hds]
    simp [hyphenated, groups, List.take_of_length_le hlast.le]
  have hlength (n : ℕ) : (ds.drop n).length = 32 - n := by rw [List.length_drop, hds]
  rw [hgroups, getElem?_group (by omega), getElem?_group (by rw [hlength]; omega),
    getElem?_group (by rw [hlength]; omega), getElem?_group (by rw [hlength]; omega)]
  simp only [List.getElem?_drop, Nat.sub_sub]

lemma length_hyphenated : (hyphenated groups ds).length = 36 := by
  simp [hyphenated, groups, hds]

/-- Every place but those of the hyphens has a digit. -/
lemma exists_digit {i : ℕ} (hi : ¬ IsHyphenPlace i) :
    ∃ k : ℕ, (hyphenated groups ds)[i]? = ds[k]? := by
  unfold IsHyphenPlace at hi
  rw [getElem?_hyphenated hds]
  split_ifs <;> first | omega | exact ⟨_, rfl⟩

/-- Digits in the five groups have the form of an identifier. -/
lemma hasForm_hyphenated (h : ∀ c ∈ ds, (Text.hexValue? c).isSome) :
    hasForm (hyphenated groups ds) := by
  refine hasForm_iff.mpr ⟨length_hyphenated hds, fun i c hc => ?_⟩
  by_cases hi : IsHyphenPlace i
  · rw [if_pos hi]
    rw [getElem?_hyphenated hds] at hc
    rcases hi with rfl | rfl | rfl | rfl <;> exact (Option.some.inj hc).symm
  · rw [if_neg hi]
    obtain ⟨k, hk⟩ := exists_digit hds hi
    exact h c (List.mem_of_getElem? (hk.symm.trans hc))

end

/-! ### Marked bytes -/

section

variable {bytes : List UInt8} {version : ℕ}

lemma hasForm_render (h : bytes.length = 16) : hasForm (render bytes) := by
  refine hasForm_hyphenated (by rw [Text.length_hexOfBytes, h]) fun c hc => ?_
  obtain ⟨n, hn, rfl⟩ := Text.exists_of_mem_hexOfBytes hc
  rw [Text.hexValue?_hexDigit hn]
  rfl

/-- The digit at a place where the first digit of a byte stands. -/
lemma digitAt_render {place i : ℕ} {b : UInt8} (hb : bytes[i]? = some b)
    (hplace : (render bytes)[place]? = (Text.hexOfBytes bytes)[2 * i]?) :
    digitAt (render bytes) place = b.toNat / 16 := by
  have hlt := b.toNat_lt
  rw [digitAt, hplace, Text.getElem?_hexOfBytes, hb, Option.map_some, Option.bind_some,
    Text.hexValue?_hexDigit (by omega), Option.getD_some]

@[simp] lemma length_mark (version : ℕ) (bytes : List UInt8) :
    (mark version bytes).length = min 16 bytes.length := by
  simp [mark]

lemma getElem?_mark {i : ℕ} {b : UInt8} (hi : i < 16) (hb : bytes[i]? = some b) :
    (mark version bytes)[i]? = some (if i == 6 then (version * 16 + b.toNat % 16).toUInt8
      else if i == 8 then (128 + b.toNat % 64).toUInt8 else b) := by
  rw [mark, List.getElem?_mapIdx, List.getElem?_take_of_lt hi, hb]
  rfl

/-- The seventh byte has the version before its lower half. -/
lemma exists_version_byte (h : 16 ≤ bytes.length) (hversion : version < 16) :
    ∃ b, (mark version bytes)[6]? = some b ∧ b.toNat / 16 = version := by
  refine ⟨_, getElem?_mark (by decide) (List.getElem?_eq_getElem (by omega)), ?_⟩
  rw [if_pos (show (6 == 6) = true from rfl), Nat.toUInt8, UInt8.toNat_ofNat']
  omega

/-- The ninth byte is one of those whose first digit is from `8` to `b`. -/
lemma exists_form_byte (version : ℕ) (h : 16 ≤ bytes.length) :
    ∃ b, (mark version bytes)[8]? = some b ∧ 8 ≤ b.toNat / 16 ∧ b.toNat / 16 ≤ 11 := by
  refine ⟨_, getElem?_mark (by decide) (List.getElem?_eq_getElem (by omega)), ?_⟩
  rw [if_neg (show ¬ (8 == 6) = true by decide), if_pos (show (8 == 8) = true from rfl),
    Nat.toUInt8, UInt8.toNat_ofNat']
  omega

/-- The version of marked bytes is the one they are marked with. -/
lemma digitAt_render_mark (h : 16 ≤ bytes.length) (hversion : version < 16) :
    digitAt (render (mark version bytes)) 14 = version := by
  have hdigits : (Text.hexOfBytes (mark version bytes)).length = 32 := by simp [h]
  obtain ⟨b, hb, hvalue⟩ := exists_version_byte h hversion
  rw [digitAt_render hb (by rw [render, getElem?_hyphenated hdigits]; rfl), hvalue]

/-- Bytes marked with a version are an identifier, whatever they were. -/
lemma isValid_render_mark (h : 16 ≤ bytes.length) (hpos : 1 ≤ version) (hle : version ≤ 8) :
    isValid (render (mark version bytes)) := by
  have hlength : (mark version bytes).length = 16 := by simp [h]
  have hdigits : (Text.hexOfBytes (mark version bytes)).length = 32 := by
    rw [Text.length_hexOfBytes, hlength]
  obtain ⟨b, hb, hform⟩ := exists_form_byte version h
  have hplace : digitAt (render (mark version bytes)) 19 = b.toNat / 16 :=
    digitAt_render hb (by rw [render, getElem?_hyphenated hdigits]; rfl)
  simp [isValid, hasForm_render hlength, digitAt_render_mark h (by omega : version < 16), hplace,
    hpos, hle, hform]

end

lemma hasForm_of_isValid {s : List Char} (h : isValid s) : hasForm s := by
  rw [isValid, Bool.and_eq_true] at h
  exact h.1

lemma length_of_isValid {s : List Char} (h : isValid s) : s.length = 36 :=
  (hasForm_iff.mp (hasForm_of_isValid h)).1

/-- An identifier does not end with a line break. -/
lemma getLast?_of_isValid {s : List Char} (h : isValid s) : s.getLast? ≠ some '\n' := by
  obtain ⟨hlength, hplaces⟩ := hasForm_iff.mp (hasForm_of_isValid h)
  intro hlast
  rw [List.getLast?_eq_getElem?, hlength] at hlast
  exact absurd (hplaces 35 '\n' hlast) (by decide)

end Uuid

/-! ### Digests -/

namespace Digest

lemma length_md5 (message : List UInt8) : (Md5.digest message).length = 16 := by
  simp [Md5.digest, bytes32, Order.bytes]

lemma length_sha1 (message : List UInt8) : (Sha1.digest message).length = 20 := by
  simp [Sha1.digest, bytes32, Order.bytes]

end Digest

namespace Library

/-! ### Texts that are taken for identifiers -/

/-- The value is the text of an identifier of a version, which is taken for one. -/
def IsIdentifier (version : ℕ) (v : Value) : Prop :=
  ∃ s : String, v = .text s ∧ s.length = 36 ∧ (identifierText? v).isSome ∧
    identifierVersion v = .ok (.int version)

/-- A text is taken for an identifier if it is one or is one with a line break behind it. -/
lemma exists_of_identifierText? {space : Value} {s : List Char}
    (h : identifierText? space = some s) :
    space = textValue s ∧
      ∃ id, Uuid.isValid id ∧ (s = id ∨ s = id ++ ['\n']) := by
  cases space with
  | text t =>
      simp only [identifierText?, beq_iff_eq, Option.ite_none_right_eq_some] at h
      obtain ⟨hvalid, htext⟩ := h
      obtain rfl : t.toList = s := Option.some.inj htext
      refine ⟨by rw [textValue, String.ofList_toList], _, hvalid, ?_⟩
      split
      · next hlast => exact .inr (List.dropLast_append_getLast? _ hlast).symm
      · exact .inl rfl
  | _ => simp [identifierText?] at h

/-- An identifier is taken for one. -/
lemma identifierText?_of_isValid {id : List Char} (h : Uuid.isValid id) :
    identifierText? (textValue id) = some id := by
  simp [identifierText?, textValue, Uuid.getLast?_of_isValid h, h]

/-- Bytes marked with a version are the text of an identifier of this version. -/
lemma isIdentifier_render_mark {version : ℕ} {bytes : List UInt8} (h : 16 ≤ bytes.length)
    (hpos : 1 ≤ version) (hle : version ≤ 8) :
    IsIdentifier version (textValue (Uuid.render (Uuid.mark version bytes))) := by
  have hvalid := Uuid.isValid_render_mark h hpos hle
  have htext := identifierText?_of_isValid hvalid
  refine ⟨_, rfl, ?_, by rw [htext]; rfl, ?_⟩
  · rw [String.length_ofList, Uuid.length_of_isValid hvalid]
  · simp only [identifierVersion, htext, Uuid.digitAt_render_mark h (by omega : version < 16)]

/-! ### Generation -/

/-- The version and the digest of the identifiers by name. -/
def namedForms : List (ℕ × (List UInt8 → List UInt8)) :=
  [(3, Digest.Md5.digest), (5, Digest.Sha1.digest)]

/-- A name within an identifier gives an identifier of the version. -/
lemma exists_namedIdentifier {version : ℕ} {digest : List UInt8 → List UInt8}
    (hform : (version, digest) ∈ namedForms) {id : List Char} (h : Uuid.isValid id) :
    ∃ identifier : String → Value, (∀ text, IsIdentifier version (identifier text)) ∧
      ∀ name, namedIdentifier version digest name (textValue id) = name.toText.map identifier := by
  have hdigest : 1 ≤ version ∧ version ≤ 8 ∧ ∀ message, 16 ≤ (digest message).length := by
    simp only [namedForms, List.mem_cons, Prod.mk.injEq, List.not_mem_nil, or_false] at hform
    rcases hform with ⟨rfl, rfl⟩ | ⟨rfl, rfl⟩
    · exact ⟨by decide, by decide, fun message => (Digest.length_md5 message).ge⟩
    · exact ⟨by decide, by decide, fun message => by rw [Digest.length_sha1]; decide⟩
  obtain ⟨hpos, hle, hlength⟩ := hdigest
  refine ⟨fun text => textValue (Uuid.render (Uuid.mark version
    (digest (Uuid.bytesOf id ++ Bytes.ofText text)))), fun text =>
      isIdentifier_render_mark (hlength _) hpos hle, fun name => ?_⟩
  simp only [namedIdentifier, identifierText?_of_isValid h, Uuid.length_of_isValid h]
  cases name.toText <;> rfl

/-- A text with a line break behind an identifier is no namespace. -/
lemma namedIdentifier_lineBreak {id : List Char} {space : Value}
    (h : identifierText? space = some (id ++ ['\n'])) (hid : Uuid.isValid id) (version : ℕ)
    (digest : List UInt8 → List UInt8) (name : Value) :
    namedIdentifier version digest name space =
      .error (Fault.value "badly formed hexadecimal UUID string") := by
  have hlength : (id ++ ['\n']).length ≠ 36 := by
    rw [List.length_append, Uuid.length_of_isValid hid]
    decide
  simp only [namedIdentifier, h, bne_iff_ne, ne_eq, hlength, not_false_eq_true, if_true]

/-- **Generated identifiers.**  A random identifier is one of version 4.  A value that is taken for
an identifier has a version, and if it has 36 characters, every name that has a text gives
identifiers of versions 3 and 5 within it.  Otherwise it is an identifier with a line break behind
it, and no name gives any.  The names are texts without surrogates, which would have no digest. -/
theorem identifiers_generated {h : Host} (hrandom : (h.randomBytes 16).length = 16)
    {space : Value} (hspace : (identifierText? space).isSome) :
    IsIdentifier 4 (randomIdentifier h) ∧ (identifierVersion space).isOk ∧
      ∃ s : String, space = .text s ∧
        ((s.length = 36 ∧ ∀ form ∈ namedForms, ∃ identifier : String → Value,
            (∀ text, IsIdentifier form.1 (identifier text)) ∧
              ∀ name, namedIdentifier form.1 form.2 name space = name.toText.map identifier) ∨
          (∃ id, s.toList = id ++ ['\n'] ∧ id.length = 36 ∧ ∀ form ∈ namedForms, ∀ name,
            namedIdentifier form.1 form.2 name space =
              .error (Fault.value "badly formed hexadecimal UUID string"))) := by
  obtain ⟨s, hs⟩ := Option.isSome_iff_exists.mp hspace
  obtain ⟨rfl, id, hid, hcase⟩ := exists_of_identifierText? hs
  refine ⟨isIdentifier_render_mark hrandom.ge (by decide) (by decide),
    ?_, _, rfl, ?_⟩
  · rw [identifierVersion, hs]
    rfl
  · rcases hcase with rfl | rfl
    · left
      refine ⟨?_, fun form hform => exists_namedIdentifier hform hid⟩
      rw [String.length_ofList, Uuid.length_of_isValid hid]
    · right
      exact ⟨id, String.toList_ofList, Uuid.length_of_isValid hid, fun form _ name =>
        namedIdentifier_lineBreak hs hid form.1 form.2 name⟩

/-- Within the namespace of domain names every text gives identifiers of both kinds. -/
theorem identifiers_generated_domains :
    let h : Host := { Host.blank with entropy := [7, 200, 31] }
    let space := Value.text "6ba7b810-9dad-11d1-80b4-00c04fd430c8"
    IsIdentifier 4 (randomIdentifier h) ∧ (identifierVersion space).isOk ∧
      ∀ form ∈ namedForms, ∃ identifier : String → Value,
        (∀ text, IsIdentifier form.1 (identifier text)) ∧
          ∀ name, namedIdentifier form.1 form.2 (.text name) space = .ok (identifier name) := by
  intro h space
  have hspace : (identifierText? space).isSome := by decide
  obtain ⟨hnew, hversion, s, hs, hcase⟩ :=
    identifiers_generated (h := h) (by decide) hspace
  refine ⟨hnew, hversion, fun form hform => ?_⟩
  obtain rfl : "6ba7b810-9dad-11d1-80b4-00c04fd430c8" = s := Value.text.inj hs
  rcases hcase with ⟨-, hall⟩ | ⟨id, hend, -⟩
  · obtain ⟨identifier, hvalid, hname⟩ := hall form hform
    exact ⟨identifier, hvalid, fun name => hname (.text name)⟩
  · have hlast := congrArg List.getLast? hend
    rw [List.getLast?_concat] at hlast
    exact absurd hlast (by decide)

/-- A text of 37 characters is taken for an identifier, but within it no name gives one. -/
theorem line_break_is_validated :
    let space := Value.text "6ba7b810-9dad-11d1-80b4-00c04fd430c8\n"
    (identifierText? space).isSome ∧
      ("6ba7b810-9dad-11d1-80b4-00c04fd430c8\n".length = 37) ∧
      namedIdentifier 3 Digest.Md5.digest (.text "example.org") space =
        .error (Fault.value "badly formed hexadecimal UUID string") ∧
      namedIdentifier 5 Digest.Sha1.digest (.text "example.org") space =
        .error (Fault.value "badly formed hexadecimal UUID string") := by
  refine ⟨by decide, by decide, rfl, rfl⟩

end Library

end Sigil
