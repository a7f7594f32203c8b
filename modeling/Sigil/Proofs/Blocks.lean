/-
# Blocks of bytes

A run is cut into blocks of one width, of which only the last may be shorter.  The cut can be told
from its shape alone, so the blocks that something was put together from are found again by cutting
it.
-/
import Mathlib
import Sigil.Bytes.Basic

namespace Sigil.Bytes

/-! ### Combined runs -/

section

variable {a b : List UInt8}

@[simp] lemma length_xor (a b : List UInt8) : (xor a b).length = min a.length b.length := by
  simp [xor]

/-- A run that covers another one can be taken out of their combination again. -/
lemma xor_xor (h : a.length ≤ b.length) : xor (xor a b) b = a := by
  induction a generalizing b with
  | nil => rfl
  | cons x a ih =>
      cases b with
      | nil => simp at h
      | cons y b =>
          have hrest : a.length ≤ b.length := by simpa using h
          have hfirst : x ^^^ y ^^^ y = x := by
            rw [UInt8.xor_assoc, UInt8.xor_self, UInt8.xor_zero]
          change (x ^^^ y ^^^ y) :: xor (xor a b) b = x :: a
          rw [hfirst, ih hrest]

end

@[simp] lemma length_little (width n : ℕ) : (little width n).length = width := by
  induction width generalizing n with
  | zero => rfl
  | succ width ih => simp [little, ih]

@[simp] lemma length_big (width n : ℕ) : (big width n).length = width := by
  simp [big]

/-! ### Cuts -/

variable {α : Type} {width : ℕ}

/-- Blocks of a width, the last of which may be shorter, but is not empty. -/
inductive IsCut (width : ℕ) : List (List α) → Prop
  /-- No block at all. -/
  | nil : IsCut width []
  /-- The last block. -/
  | last {block : List α} (hpos : 0 < block.length) (hle : block.length ≤ width) :
      IsCut width [block]
  /-- A block before others. -/
  | cons {block : List α} {blocks : List (List α)} (hblock : block.length = width)
      (hrest : IsCut width blocks) : IsCut width (block :: blocks)

lemma chunksFrom_succ (fuel : ℕ) (x : α) (items : List α) :
    chunksFrom width (fuel + 1) (x :: items) =
      (x :: items).take width :: chunksFrom width fuel ((x :: items).drop width) := rfl

/-- The fuel of a cut may be more than it needs. -/
lemma chunksFrom_eq (hwidth : 0 < width) {fuel fuel' : ℕ} {items : List α}
    (h : items.length ≤ fuel) (h' : items.length ≤ fuel') :
    chunksFrom width fuel items = chunksFrom width fuel' items := by
  induction fuel generalizing fuel' items with
  | zero =>
      obtain rfl : items = [] := List.eq_nil_of_length_eq_zero (by omega)
      cases fuel' <;> rfl
  | succ fuel ih =>
      cases items with
      | nil => cases fuel' <;> rfl
      | cons x items =>
          cases fuel' with
          | zero => simp at h'
          | succ fuel' =>
              have hdrop : ((x :: items).drop width).length ≤ items.length := by
                rw [List.length_drop, List.length_cons]
                omega
              rw [List.length_cons] at h h'
              rw [chunksFrom_succ, chunksFrom_succ,
                ih (hdrop.trans (Nat.le_of_succ_le_succ h))
                  (hdrop.trans (Nat.le_of_succ_le_succ h'))]

lemma chunks_of_ne_nil (hwidth : 0 < width) {items : List α} (h : items ≠ []) :
    chunks width items = items.take width :: chunks width (items.drop width) := by
  obtain ⟨x, items, rfl⟩ := List.exists_cons_of_ne_nil h
  have hdrop : ((x :: items).drop width).length ≤ items.length := by
    rw [List.length_drop, List.length_cons]
    omega
  rw [chunks, List.length_cons, chunksFrom_succ, chunks, chunksFrom_eq hwidth hdrop le_rfl]

lemma chunks_append (hwidth : 0 < width) {block : List α} (h : block.length = width)
    (rest : List α) : chunks width (block ++ rest) = block :: chunks width rest := by
  have hne : block ++ rest ≠ [] := by
    intro hnil
    have hlength := congrArg List.length hnil
    rw [List.length_append, List.length_nil] at hlength
    omega
  rw [chunks_of_ne_nil hwidth hne, List.take_left' h, List.drop_left' h]

/-- A run is cut into blocks of the width, and they are all of it. -/
lemma isCut_chunks (hwidth : 0 < width) (items : List α) :
    IsCut width (chunks width items) ∧ (chunks width items).flatten = items := by
  -- The rest after a block is shorter than the run.
  induction hn : items.length using Nat.strong_induction_on generalizing items with
  | _ n ih =>
      rcases eq_or_ne items [] with rfl | hne
      · exact ⟨.nil, rfl⟩
      have hpos : 0 < items.length := List.length_pos_iff.mpr hne
      rw [chunks_of_ne_nil hwidth hne]
      rcases Nat.lt_or_ge width items.length with hlong | hshort
      · obtain ⟨hcut, hflatten⟩ := ih (items.drop width).length
          (by rw [List.length_drop]; omega) (items.drop width) rfl
        have hblock : (items.take width).length = width := List.length_take_of_le hlong.le
        refine ⟨.cons hblock hcut, ?_⟩
        rw [List.flatten_cons, hflatten, List.take_append_drop]
      · rw [List.take_of_length_le hshort, List.drop_of_length_le hshort]
        exact ⟨.last hpos hshort, List.append_nil items⟩

lemma flatten_chunks (hwidth : 0 < width) (items : List α) :
    (chunks width items).flatten = items := (isCut_chunks hwidth items).2

/-- Blocks put together are found again. -/
lemma IsCut.chunks_flatten (hwidth : 0 < width) {blocks : List (List α)}
    (h : IsCut width blocks) : chunks width blocks.flatten = blocks := by
  induction h with
  | nil => rfl
  | @last block hpos hle =>
      have hne : block ≠ [] := List.length_pos_iff.mp hpos
      rw [List.flatten_cons, List.flatten_nil, List.append_nil, chunks_of_ne_nil hwidth hne,
        List.take_of_length_le hle, List.drop_of_length_le hle]
      rfl
  | cons hblock _ ih => rw [List.flatten_cons, chunks_append hwidth hblock, ih]

lemma IsCut.length_le {blocks : List (List α)} (h : IsCut width blocks) :
    ∀ block ∈ blocks, block.length ≤ width := by
  induction h with
  | nil => simp
  | last _ hle => simpa using hle
  | cons hblock _ ih =>
      intro block hmem
      rcases List.mem_cons.mp hmem with rfl | hmem
      · exact hblock.le
      · exact ih block hmem

/-- If the width divides the whole, no block is short. -/
lemma IsCut.length_eq {blocks : List (List α)} (h : IsCut width blocks)
    (hdvd : width ∣ blocks.flatten.length) : ∀ block ∈ blocks, block.length = width := by
  induction h with
  | nil => simp
  | @last block hpos hle =>
      rw [List.flatten_cons, List.flatten_nil, List.append_nil] at hdvd
      have hge : width ≤ block.length := Nat.le_of_dvd hpos hdvd
      simpa using le_antisymm hle hge
  | @cons block blocks hblock _ ih =>
      have hrest : width ∣ blocks.flatten.length := by
        rwa [List.flatten_cons, List.length_append, hblock, Nat.dvd_add_right (dvd_refl width)]
          at hdvd
      intro other hmem
      rcases List.mem_cons.mp hmem with rfl | hmem
      · exact hblock
      · exact ih hrest other hmem

lemma isCut_of_length_eq {blocks : List (List α)} (h : ∀ block ∈ blocks, block.length = width) :
    IsCut width blocks := by
  induction blocks with
  | nil => exact .nil
  | cons block blocks ih =>
      exact .cons (h block List.mem_cons_self) (ih fun b hb => h b (List.mem_cons_of_mem _ hb))

lemma length_of_mem_chunks (hwidth : 0 < width) {items : List α} (hdvd : width ∣ items.length) :
    ∀ block ∈ chunks width items, block.length = width := by
  obtain ⟨hcut, hflatten⟩ := isCut_chunks hwidth items
  exact hcut.length_eq (by rwa [hflatten])

lemma length_flatten_of_eq {blocks : List (List α)} (h : ∀ block ∈ blocks, block.length = width) :
    blocks.flatten.length = width * blocks.length := by
  rw [List.length_flatten, List.map_congr_left h, List.map_const', List.sum_replicate,
    smul_eq_mul, Nat.mul_comm]

end Sigil.Bytes
