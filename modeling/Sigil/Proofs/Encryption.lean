/-
# Encrypted texts are decrypted

The text of an encryption is the starting block and the encrypted bytes in hexadecimal digits.  No
digit is the colon between them, so both are found again, and from there on every layer has an
inverse: the mode with the block cipher, the padding of a chain and the bytes of the text.  Of the
package of ciphers nothing is used but that it follows the standards with some block cipher that can
be undone.
-/
import Sigil.Library.Secrets
import Sigil.Proofs.BlockCipher
import Sigil.Proofs.CipherModes
import Sigil.Proofs.CodePoints
import Sigil.Proofs.HexDigits
import Sigil.Proofs.Steps
import Sigil.Proofs.Utf8

namespace Sigil.Library

/-! ### Hexadecimal digits -/

lemma readHexFrom_digits (position : ℕ) {c d : Char} {high low : ℕ}
    (hblank : isHexBlank c = false) (hc : Text.hexValue? c = some high)
    (hd : Text.hexValue? d = some low) (rest : List Char) :
    readHexFrom position (c :: d :: rest) =
      (readHexFrom (position + 2) rest).map ((16 * high + low).toUInt8 :: ·) := by
  rw [readHexFrom.eq_def]
  simp only [hblank, Bool.false_eq_true, if_false, hc, hd]

lemma readHexFrom_hexOfBytes (position : ℕ) (bytes : List UInt8) :
    readHexFrom position (Text.hexOfBytes bytes) = .ok bytes := by
  induction bytes generalizing position with
  | nil => rfl
  | cons b bytes ih =>
      have hlt := b.toNat_lt
      have hblank : ∀ n < 16, isHexBlank (Text.hexDigit n) = false := by decide
      have hbyte : (16 * (b.toNat / 16) + b.toNat % 16).toUInt8 = b := by
        rw [Nat.div_add_mod, Nat.toUInt8, UInt8.ofNat_toNat]
      rw [Text.hexOfBytes_cons, readHexFrom_digits position (hblank _ (by omega))
        (Text.hexValue?_hexDigit (by omega)) (Text.hexValue?_hexDigit (by omega)), ih, hbyte]
      rfl

lemma readHex_hexOfBytes (bytes : List UInt8) : readHex (Text.hexOfBytes bytes) = .ok bytes := by
  have hascii : (Text.hexOfBytes bytes).findIdx? (fun c => 0x80 ≤ c.toNat) = none := by
    rw [List.findIdx?_eq_none_iff]
    intro c hc
    obtain ⟨n, hn, rfl⟩ := Text.exists_of_mem_hexOfBytes hc
    have hall : ∀ n < 16, decide (0x80 ≤ (Text.hexDigit n).toNat) = false := by decide
    exact hall n hn
  rw [readHex, hascii]
  simp only [readHexFrom_hexOfBytes]
  rfl

/-- The colon after the digits of bytes is where they end. -/
lemma splitAt?_hexOfBytes (bytes : List UInt8) (rest : List Char) :
    Text.splitAt? ':' (Text.hexOfBytes bytes ++ ':' :: rest) =
      some (Text.hexOfBytes bytes, rest) := by
  have hdigits : ∀ c ∈ Text.hexOfBytes bytes, (c != ':') = true := by
    intro c hc
    obtain ⟨n, hn, rfl⟩ := Text.exists_of_mem_hexOfBytes hc
    have hall : ∀ n < 16, (Text.hexDigit n != ':') = true := by decide
    exact hall n hn
  rw [Text.splitAt?, List.dropWhile_append_of_pos hdigits, List.takeWhile_append_of_pos hdigits]
  simp

/-! ### Ciphers -/

section

variable {ciphers : Cipher.Package} {cipher : Cipher.BlockCipher} {algorithm password : String}
  {bits : ℕ} {mode : Cipher.Mode} {key start : List UInt8}

/-- The keys that a name can ask for. -/
lemma bits_of_cipherNamed? {name : List Char} (h : cipherNamed? name = some (bits, mode)) :
    bits = 128 ∨ bits = 192 ∨ bits = 256 := by
  simp only [cipherNamed?, Option.bind_eq_bind, Option.bind_eq_some_iff] at h
  obtain ⟨rest, -, ⟨found, rest'⟩, hfound, hmode⟩ := h
  have hbits : found = 128 ∨ found = 192 ∨ found = 256 := by
    obtain ⟨⟨digits, n⟩, hmem, hdigits⟩ := List.exists_of_findSome?_eq_some hfound
    obtain ⟨_, -, hpair⟩ := Option.map_eq_some_iff.mp hdigits
    obtain rfl : n = found := congrArg Prod.fst hpair
    simpa using List.mem_map_of_mem (f := Prod.snd) hmem
  obtain ⟨⟨title, m⟩, -, htitle⟩ := List.exists_of_findSome?_eq_some hmode
  dsimp only at htitle
  split at htitle
  · obtain rfl : found = bits := congrArg Prod.fst (Option.some.inj htitle)
    exact hbits
  · cases htitle

/-- A password of the length that a name asks for is a key. -/
lemma isKey_of_cipherNamed? {name : List Char} (hname : cipherNamed? name = some (bits, mode))
    (hkey : key.length * 8 = bits) : Cipher.IsKey key := by
  have hbits := bits_of_cipherNamed? hname
  rw [Cipher.IsKey]
  omega

lemma cipherOf_text (hfollows : ciphers.Follows cipher)
    (hname : cipherNamed? (Text.strip algorithm.toList) = some (bits, mode))
    (hkey : (Bytes.ofText password).length * 8 = bits) (hstart : start.length = 16) :
    cipherOf ciphers (.text algorithm) (.text password) start =
      .ok ⟨mode, Bytes.ofText password, start⟩ := by
  have hchars : chars (.text algorithm) = .ok algorithm.toList := rfl
  have hpassword : Value.toText (.text password) = .ok password := rfl
  have haccept : ciphers.accept mode (Bytes.ofText password) start = .ok () :=
    hfollows.accept (isKey_of_cipherNamed? hname hkey) hstart
  simp only [cipherOf, hchars, hpassword, bind, Except.bind, hname, hkey, bne_self_eq_false,
    Bool.false_eq_true, if_false, haccept]
  rfl

/-- Bytes are held in a message that the mode takes. -/
lemma exists_message (hfollows : ciphers.Follows cipher) (mode : Cipher.Mode)
    (bytes : List UInt8) :
    ∃ message, mode.Takes message ∧ messageOf ciphers mode bytes = .ok message ∧
      bytesOf ciphers mode message = .ok bytes := by
  rcases eq_or_ne mode .cbc with rfl | hne
  · exact ⟨Cipher.addPadding bytes, fun _ => Cipher.length_addPadding bytes, hfollows.pad bytes,
      hfollows.unpad (Cipher.removePadding?_addPadding bytes)⟩
  · have hmode : ¬ (mode == .cbc) = true := by simpa using hne
    exact ⟨bytes, fun h => absurd h hne, if_neg hmode, if_neg hmode⟩

/-- Bytes are encrypted under a key, and decrypted to what they were. -/
lemma exists_body (hinverts : cipher.Inverts) (hfollows : ciphers.Follows cipher)
    (hkey : Cipher.IsKey key) (hstart : start.length = 16) (mode : Cipher.Mode)
    (bytes : List UInt8) :
    ∃ body, encryptBytes ciphers ⟨mode, key, start⟩ bytes = .ok body ∧
      decryptBytes ciphers ⟨mode, key, start⟩ body = .ok bytes := by
  obtain ⟨message, htakes, hmessage, hbytes⟩ := exists_message hfollows mode bytes
  have htakes' : mode.Takes (mode.encrypt (cipher.encrypt key) start message) := by
    rw [Cipher.Mode.Takes, hinverts.length_mode hkey hstart htakes]
    exact htakes
  refine ⟨mode.encrypt (cipher.encrypt key) start message, ?_, ?_⟩
  · rw [encryptBytes, hmessage]
    exact hfollows.encrypt hkey hstart htakes
  · rw [decryptBytes, hfollows.decrypt hkey hstart htakes',
      hinverts.decrypt_mode hkey hstart htakes]
    exact hbytes

end

/-! ### Texts -/

/-- The text of an encryption. -/
def token (start body : List UInt8) : String :=
  String.ofList (Text.hexOfBytes start ++ ':' :: Text.hexOfBytes body)

section

variable {ciphers : Cipher.Package} {c : ReadyCipher} {h : Host} {algorithm password : Value}

lemma encryptCodePoints_of_bytes {s : List CodePoint} {bytes body : List UInt8}
    (hcipher : cipherOf ciphers algorithm password (h.randomBytes 16) = .ok c)
    (hbytes : Bytes.ofCodePoints s = .ok bytes)
    (hbody : encryptBytes ciphers c bytes = .ok body) :
    encryptCodePoints ciphers h (.ok s) algorithm password = .ok (.text (token c.start body)) := by
  simp only [encryptCodePoints, hcipher, bind, Except.bind, hbytes, hbody]
  rfl

lemma encryptCodePoints_of_fault {s : List CodePoint} {f : Fault}
    (hcipher : cipherOf ciphers algorithm password (h.randomBytes 16) = .ok c)
    (hfault : Bytes.ofCodePoints s = .error f) :
    encryptCodePoints ciphers h (.ok s) algorithm password = .error f := by
  simp only [encryptCodePoints, hcipher, bind, Except.bind, hfault]

/-- The text of an encryption is taken apart again. -/
lemma decrypt_token {start body : List UInt8} {text : String}
    (hcipher : cipherOf ciphers algorithm password start = .ok c)
    (hbody : decryptBytes ciphers c body = .ok (Bytes.ofText text)) :
    decrypt ciphers (.text (token start body)) algorithm password = .ok (.text text) := by
  have hchars : chars (.text (token start body)) =
      .ok (Text.hexOfBytes start ++ ':' :: Text.hexOfBytes body) :=
    congrArg Except.ok String.toList_ofList
  have htext : textValue text.toList = .text text := congrArg Value.text String.ofList_toList
  simp only [decrypt, hchars, splitAt?_hexOfBytes, Option.getD_some, readHex_hexOfBytes, hcipher,
    hbody, Bytes.decodeStrict_ofText, bind, Except.bind, htext]
  rfl

end

/-- **Encryption.**  Let the package of ciphers follow the standards with a block cipher that can be
undone.  Under every algorithm that has a name, in particular with keys of 128, 192 and 256 bits in
each of the modes, and with every password of the length that it asks for, a sequence of code points
without surrogates is encrypted whatever block the host starts it with, and decryption gives back
the text of these code points.  A sequence with a surrogate is not encrypted: it has no bytes. -/
theorem decrypt_encrypt :
    (∀ bits ∈ [128, 192, 256], ∀ named ∈ Cipher.modeNames,
        cipherNamed? ("aes-" ++ Decimal.ofInt (bits : ℕ) ++ "-" ++ named.1).toList =
          some (bits, named.2)) ∧
      ∀ {ciphers : Cipher.Package} {cipher : Cipher.BlockCipher}, cipher.Inverts →
        ciphers.Follows cipher →
        ∀ {algorithm password : String} {bits : ℕ} {mode : Cipher.Mode} {h : Host}
          {start : List UInt8}, cipherNamed? (Text.strip algorithm.toList) = some (bits, mode) →
          (Bytes.ofText password).length * 8 = bits → h.randomBytes 16 = start →
          start.length = 16 → ∀ s : List CodePoint,
            ((∀ p ∈ s, p.isSurrogate = false) → ∃ text body, codePoints text = s ∧
              encryptCodePoints ciphers h (.ok s) (.text algorithm) (.text password) =
                .ok (.text (token start body)) ∧
              encrypt ciphers h (.text text) (.text algorithm) (.text password) =
                .ok (.text (token start body)) ∧
              decrypt ciphers (.text (token start body)) (.text algorithm) (.text password) =
                .ok (.text text)) ∧
            ((∃ p ∈ s, p.isSurrogate) → ∃ f : Fault, f.kind = .encoding ∧
              encryptCodePoints ciphers h (.ok s) (.text algorithm) (.text password) =
                .error f) := by
  refine ⟨by decide, ?_⟩
  rintro ciphers cipher hinverts hfollows algorithm password bits mode h start hname hkey rfl
    hstart s
  have hcipher := cipherOf_text hfollows hname hkey hstart
  refine ⟨fun hclean => ?_, fun hsurrogate => ?_⟩
  · obtain ⟨text, rfl⟩ := exists_codePoints hclean
    obtain ⟨body, hbody, hback⟩ := exists_body hinverts hfollows
      (isKey_of_cipherNamed? hname hkey) hstart mode (Bytes.ofText text)
    have hencrypt : encryptCodePoints ciphers h (.ok (codePoints text)) (.text algorithm)
        (.text password) = .ok (.text (token (h.randomBytes 16) body)) :=
      encryptCodePoints_of_bytes hcipher (Bytes.ofCodePoints_codePoints text) hbody
    exact ⟨text, body, rfl, hencrypt, hencrypt, decrypt_token hcipher hback⟩
  · obtain ⟨f, hkind, hfault⟩ := Bytes.exists_encoding_fault hsurrogate
    exact ⟨f, hkind, encryptCodePoints_of_fault hcipher hfault⟩

/-- A text that is longer than a block in a chain, and the empty text in a stream: the name of the
algorithm may be written in capitals, without hyphens and between blanks.  A surrogate behind a
letter is not encrypted. -/
theorem decrypt_encrypt_secret :
    let ciphers := Cipher.Aes.package
    let h : Host := { Host.blank with entropy := [7, 200, 31] }
    let key : Value := .text "0123456789abcdef0123456789abcdef"
    let letters : Value := .text "sixteen letters."
    let secret := "a secret of more than one block"
    (∃ body, encrypt ciphers h (.text secret) (.text "aes-256-cbc") key =
          .ok (.text (token (h.randomBytes 16) body)) ∧
        decrypt ciphers (.text (token (h.randomBytes 16) body)) (.text "aes-256-cbc") key =
          .ok (.text secret)) ∧
      (∃ body, encrypt ciphers h (.text "") (.text " AES128ofb ") letters =
          .ok (.text (token (h.randomBytes 16) body)) ∧
        decrypt ciphers (.text (token (h.randomBytes 16) body)) (.text " AES128ofb ") letters =
          .ok (.text "")) ∧
      ∃ f : Fault, f.kind = .encoding ∧
        encryptCodePoints ciphers h (.ok [0x61, 0xDC00]) (.text " AES128ofb ") letters =
          .error f := by
  intro ciphers h key letters secret
  obtain ⟨-, hall⟩ := decrypt_encrypt
  have hchain : cipherNamed? (Text.strip "aes-256-cbc".toList) = some (256, .cbc) := by decide
  have hstream : cipherNamed? (Text.strip " AES128ofb ".toList) = some (128, .ofb) := by decide
  have hkey : (Bytes.ofText "0123456789abcdef0123456789abcdef").length * 8 = 256 := by decide
  have hletters : (Bytes.ofText "sixteen letters.").length * 8 = 128 := by decide
  have hrandom : (h.randomBytes 16).length = 16 := by decide
  have hencrypts := @hall Cipher.Aes.package Cipher.Aes.cipher Cipher.Aes.cipher_inverts
    Cipher.Aes.package_follows
  have hclean (text : String) : ∀ p ∈ codePoints text, p.isSurrogate = false := by
    simp [codePoints]
  obtain ⟨text, body, htext, -, hencrypt, hdecrypt⟩ :=
    (hencrypts hchain hkey rfl hrandom (codePoints secret)).1 (hclean secret)
  obtain ⟨text', body', htext', -, hencrypt', hdecrypt'⟩ :=
    (hencrypts hstream hletters rfl hrandom (codePoints "")).1 (hclean "")
  obtain rfl := codePoints_injective htext
  obtain rfl := codePoints_injective htext'
  exact ⟨⟨body, hencrypt, hdecrypt⟩, ⟨body', hencrypt', hdecrypt'⟩,
    (hencrypts hstream hletters rfl hrandom [0x61, 0xDC00]).2 ⟨0xDC00, by simp, by decide⟩⟩

/-- A lone surrogate is not encrypted under a password of the right length. -/
theorem surrogate_not_encrypted :
    let h : Host := { Host.blank with entropy := [7, 200, 31] }
    let password := "0123456789abcdef"
    let wording := "'utf-8' codec can't encode character '\\ud800' in position 0: " ++
      "surrogates not allowed"
    cipherNamed? (Text.strip "aes-128-ctr".toList) = some (128, .ctr) ∧
      (Bytes.ofText password).length * 8 = 128 ∧ (h.randomBytes 16).length = 16 ∧
      encryptCodePoints Cipher.Aes.package h (.ok [0xD800]) (.text "aes-128-ctr")
        (.text password) = .error ⟨.encoding, some wording⟩ := by
  intro h password wording
  refine ⟨by decide, by decide, by decide, ?_⟩
  cbv

end Sigil.Library
