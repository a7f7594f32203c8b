/-
# Modes of operation undone

A mode goes through the blocks of a message with a register: each block is turned into another one
and leaves the register for the next.  Two modes of such steps undo one another when the register
goes the same way on both sides, as long as every block but the last is whole.  Chained blocks must
all be whole, which is what padding is for.
-/
import Sigil.Cipher.Package
import Sigil.Proofs.Blocks

namespace Sigil.Cipher

/-! ### Steps -/

/-- How a mode treats a block: from the register, the block that it is turned into and the register
for the next. -/
abbrev BlockStep := List UInt8 → List UInt8 → List UInt8 × List UInt8

/-- The steps along the blocks of a message. -/
def runSteps (step : BlockStep) (register : List UInt8) : List (List UInt8) → List UInt8
  | [] => []
  | block :: rest => (step register block).1 ++ runSteps step (step register block).2 rest

/-- A recursion that takes a step for each block is the run of the steps. -/
lemma eq_runSteps {step : BlockStep} {f : List UInt8 → List (List UInt8) → List UInt8}
    (hnil : ∀ register, f register [] = [])
    (hcons : ∀ register block rest, f register (block :: rest) =
      (step register block).1 ++ f (step register block).2 rest)
    (register : List UInt8) (blocks : List (List UInt8)) :
    f register blocks = runSteps step register blocks := by
  induction blocks generalizing register with
  | nil => exact hnil register
  | cons block rest ih => rw [hcons, ih, runSteps]

/-- One step undoes another on the blocks that are admitted. -/
structure Undoes (back forth : BlockStep) (Admits : List UInt8 → Prop) : Prop where
  /-- The block stays as long as it is. -/
  length {register block : List UInt8} (hregister : register.length = 16) (hblock : Admits block) :
    (forth register block).1.length = block.length
  /-- The block comes back. -/
  block {register block : List UInt8} (hregister : register.length = 16) (hblock : Admits block) :
    (back register (forth register block).1).1 = block
  /-- The register goes the same way. -/
  next {register block : List UInt8} (hregister : register.length = 16) (hblock : Admits block) :
    (back register (forth register block).1).2 = (forth register block).2
  /-- The register stays a block after whole blocks. -/
  ready {register block : List UInt8} (hregister : register.length = 16)
    (hblock : block.length = 16) : (forth register block).2.length = 16

section

variable {back forth : BlockStep} {Admits : List UInt8 → Prop} {blocks : List (List UInt8)}
  {register : List UInt8}

lemma Undoes.length_runSteps (h : Undoes back forth Admits) (hcut : Bytes.IsCut 16 blocks)
    (hadmits : ∀ block ∈ blocks, Admits block) (hregister : register.length = 16) :
    (runSteps forth register blocks).length = blocks.flatten.length := by
  induction hcut generalizing register with
  | nil => rfl
  | @last block _ _ =>
      have hblock : Admits block := hadmits block List.mem_cons_self
      simp [runSteps, h.length hregister hblock]
  | @cons block blocks hwhole _ ih =>
      have hblock : Admits block := hadmits block List.mem_cons_self
      rw [runSteps, List.length_append, h.length hregister hblock,
        ih (fun b hb => hadmits b (List.mem_cons_of_mem _ hb)) (h.ready hregister hwhole),
        List.flatten_cons, List.length_append]

/-- The blocks that were turned into others come back. -/
lemma Undoes.runSteps_runSteps (h : Undoes back forth Admits) (hcut : Bytes.IsCut 16 blocks)
    (hadmits : ∀ block ∈ blocks, Admits block) (hregister : register.length = 16) :
    runSteps back register (Bytes.chunks 16 (runSteps forth register blocks)) =
      blocks.flatten := by
  -- Along the blocks, both sides have the same register.
  induction hcut generalizing register with
  | nil => rfl
  | @last block hpos hle =>
      have hblock : Admits block := hadmits block List.mem_cons_self
      have hlength := h.length hregister hblock
      have hchunks : Bytes.chunks 16 [(forth register block).1].flatten =
          [(forth register block).1] :=
        (Bytes.IsCut.last (by omega) (by omega)).chunks_flatten (by decide)
      change runSteps back register (Bytes.chunks 16 [(forth register block).1].flatten) = _
      rw [hchunks, runSteps, h.block hregister hblock]
      rfl
  | @cons block blocks hwhole _ ih =>
      have hblock : Admits block := hadmits block List.mem_cons_self
      have hlength := h.length hregister hblock
      rw [runSteps, Bytes.chunks_append (by decide) (hlength.trans hwhole), runSteps,
        h.block hregister hblock, h.next hregister hblock,
        ih (fun b hb => hadmits b (List.mem_cons_of_mem _ hb)) (h.ready hregister hwhole),
        List.flatten_cons]

end

/-! ### The modes -/

/-- The step that encrypts. -/
def Mode.forth (encrypt : List UInt8 → List UInt8) : Mode → BlockStep
  | cbc, last, block => (encrypt (Bytes.xor block last), encrypt (Bytes.xor block last))
  | ctr, counter, block => (Bytes.xor block (encrypt counter), increment counter)
  | cfb, last, block => (Bytes.xor block (encrypt last), Bytes.xor block (encrypt last))
  | ofb, last, block => (Bytes.xor block (encrypt last), encrypt last)

/-- The step that decrypts. -/
def Mode.back (encrypt decrypt : List UInt8 → List UInt8) : Mode → BlockStep
  | cbc, last, block => (Bytes.xor (decrypt block) last, block)
  | ctr, counter, block => (Bytes.xor block (encrypt counter), increment counter)
  | cfb, last, block => (Bytes.xor block (encrypt last), block)
  | ofb, last, block => (Bytes.xor block (encrypt last), encrypt last)

/-- The blocks that a mode can treat: a chain has no place for a short one. -/
def Mode.Admits : Mode → List UInt8 → Prop
  | cbc, block => block.length = 16
  | _, block => block.length ≤ 16

section

variable {encrypt decrypt : List UInt8 → List UInt8}

lemma Mode.undoes (hlength : ∀ block, block.length = 16 → (encrypt block).length = 16)
    (hdecrypt : ∀ block, block.length = 16 → decrypt (encrypt block) = block) (mode : Mode) :
    Undoes (mode.back encrypt decrypt) (mode.forth encrypt) mode.Admits := by
  have hshort {register block : List UInt8} (hregister : register.length = 16)
      (h : block.length ≤ 16) : (Bytes.xor block (encrypt register)).length = block.length := by
    rw [Bytes.length_xor, hlength _ hregister, Nat.min_eq_left h]
  have hxor {register block : List UInt8} (hregister : register.length = 16)
      (h : block.length ≤ 16) :
      Bytes.xor (Bytes.xor block (encrypt register)) (encrypt register) = block :=
    Bytes.xor_xor (by rw [hlength _ hregister]; exact h)
  have hmasked {register block : List UInt8} (hregister : register.length = 16)
      (h : block.length = 16) : (Bytes.xor block register).length = 16 := by
    rw [Bytes.length_xor, h, hregister, Nat.min_self]
  cases mode with
  | cbc =>
      refine ⟨fun hregister h => (hlength _ (hmasked hregister h)).trans h.symm, ?_,
        fun _ _ => rfl, fun hregister h => hlength _ (hmasked hregister h)⟩
      intro register block hregister h
      have hblock : block.length = 16 := h
      change Bytes.xor (decrypt (encrypt (Bytes.xor block register))) register = block
      rw [hdecrypt _ (hmasked hregister hblock), Bytes.xor_xor (by omega)]
  | ctr =>
      refine ⟨fun hregister h => hshort hregister h, fun hregister h => hxor hregister h,
        fun _ _ => rfl, fun hregister _ => ?_⟩
      exact (Bytes.length_big _ _).trans hregister
  | cfb =>
      refine ⟨fun hregister h => hshort hregister h, fun hregister h => hxor hregister h,
        fun _ _ => rfl, fun hregister h => ?_⟩
      exact (hshort hregister h.le).trans h
  | ofb =>
      exact ⟨fun hregister h => hshort hregister h, fun hregister h => hxor hregister h,
        fun _ _ => rfl, fun hregister _ => hlength _ hregister⟩

lemma Mode.encrypt_eq_runSteps (mode : Mode) (start message : List UInt8) :
    mode.encrypt encrypt start message =
      runSteps (mode.forth encrypt) start (Bytes.chunks 16 message) := by
  cases mode with
  | cbc => exact eq_runSteps (f := chain _) (fun _ => rfl) (fun _ _ _ => rfl) _ _
  | ctr => exact eq_runSteps (f := count _) (fun _ => rfl) (fun _ _ _ => rfl) _ _
  | cfb => exact eq_runSteps (f := feedBack _) (fun _ => rfl) (fun _ _ _ => rfl) _ _
  | ofb => exact eq_runSteps (f := stream _) (fun _ => rfl) (fun _ _ _ => rfl) _ _

lemma Mode.decrypt_eq_runSteps (mode : Mode) (start message : List UInt8) :
    mode.decrypt encrypt decrypt start message =
      runSteps (mode.back encrypt decrypt) start (Bytes.chunks 16 message) := by
  cases mode with
  | cbc => exact eq_runSteps (f := unchain _) (fun _ => rfl) (fun _ _ _ => rfl) _ _
  | ctr => exact eq_runSteps (f := count _) (fun _ => rfl) (fun _ _ _ => rfl) _ _
  | cfb => exact eq_runSteps (f := feedForward _) (fun _ => rfl) (fun _ _ _ => rfl) _ _
  | ofb => exact eq_runSteps (f := stream _) (fun _ => rfl) (fun _ _ _ => rfl) _ _

end

section

variable {mode : Mode} {cipher : BlockCipher} {key start message : List UInt8}

/-- The steps of a mode under a key. -/
lemma BlockCipher.Inverts.undoes (h : cipher.Inverts) (hkey : IsKey key) (mode : Mode) :
    Undoes (mode.back (cipher.encrypt key) (cipher.decrypt key)) (mode.forth (cipher.encrypt key))
      mode.Admits :=
  Mode.undoes (fun _ hblock => h.length_encrypt hkey hblock)
    (fun _ hblock => h.decrypt_encrypt hkey hblock) mode

/-- A mode that takes a message admits every block of it. -/
lemma Mode.Takes.admits_chunks (h : mode.Takes message) :
    ∀ block ∈ Bytes.chunks 16 message, mode.Admits block := by
  intro block hmem
  have hle : block.length ≤ 16 := (Bytes.isCut_chunks (by decide) message).1.length_le block hmem
  cases mode with
  | cbc => exact Bytes.length_of_mem_chunks (by decide) (h rfl) block hmem
  | ctr => exact hle
  | cfb => exact hle
  | ofb => exact hle

lemma BlockCipher.Inverts.length_mode (h : cipher.Inverts) (hkey : IsKey key)
    (hstart : start.length = 16) (htakes : mode.Takes message) :
    (mode.encrypt (cipher.encrypt key) start message).length = message.length := by
  rw [Mode.encrypt_eq_runSteps, (h.undoes hkey mode).length_runSteps
    (Bytes.isCut_chunks (by decide) message).1 htakes.admits_chunks hstart,
    Bytes.flatten_chunks (by decide)]

/-- A message encrypted in a mode is decrypted to what it was. -/
lemma BlockCipher.Inverts.decrypt_mode (h : cipher.Inverts) (hkey : IsKey key)
    (hstart : start.length = 16) (htakes : mode.Takes message) :
    mode.decrypt (cipher.encrypt key) (cipher.decrypt key) start
      (mode.encrypt (cipher.encrypt key) start message) = message := by
  rw [Mode.encrypt_eq_runSteps, Mode.decrypt_eq_runSteps, (h.undoes hkey mode).runSteps_runSteps
    (Bytes.isCut_chunks (by decide) message).1 htakes.admits_chunks hstart,
    Bytes.flatten_chunks (by decide)]

end

/-! ### Padding -/

section

variable (message : List UInt8)

/-- A message that is filled up consists of whole blocks. -/
lemma length_addPadding : 16 ∣ (addPadding message).length := by
  rw [addPadding, List.length_append, List.length_replicate]
  omega

/-- What fills a message up is found again from the last byte of it. -/
lemma removePadding?_addPadding : removePadding? (addPadding message) = some message := by
  obtain ⟨n, hn⟩ : ∃ n, n = 16 - message.length % 16 := ⟨_, rfl⟩
  have hpos : 0 < n := by omega
  have hmax : n ≤ 16 := by omega
  have hbyte : n.toUInt8.toNat = n := by
    rw [Nat.toUInt8, UInt8.toNat_ofNat', Nat.mod_eq_of_lt (by omega)]
  have hpadded : addPadding message = message ++ List.replicate n n.toUInt8 := by
    rw [addPadding, hn]
  have hlast : (addPadding message).getLast? = some n.toUInt8 := by
    rw [hpadded, List.getLast?_append, List.getLast?_replicate, if_neg hpos.ne']
    rfl
  have hkept : (addPadding message).length - n = message.length := by
    rw [hpadded, List.length_append, List.length_replicate, Nat.add_sub_cancel]
  rw [removePadding?, hlast]
  simp only [hbyte, hkept]
  rw [hpadded, List.take_left, List.drop_left]
  simp [hpos.ne', hmax]

end

end Sigil.Cipher
