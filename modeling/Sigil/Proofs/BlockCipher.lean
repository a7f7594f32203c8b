/-
# The block cipher undone

Each step of a round has its inverse: the substitution is a permutation of the bytes, the rows turn
back, the two matrices are inverse to one another over the field, and a key is taken out by adding
it once more.  A block of the right length is therefore decrypted to what was encrypted, under any
keys of that length.  So the package made of this cipher, the modes of operation and the padding is
one that follows the standards.
-/
import Sigil.Cipher.Aes
import Sigil.Proofs.Blocks

namespace Sigil.Cipher.Aes

/-! ### The field on numbers

The same operations on numbers, where they are quick to evaluate on every byte. -/

/-- The number of the byte doubled in the field. -/
def doubleOf (a : ℕ) : ℕ := (2 * a % 256) ^^^ (27 * (a / 128))

/-- The number of the product in the field, from the bits of the second factor. -/
def productOf : ℕ → ℕ → ℕ → ℕ
  | 0, _, _ => 0
  | bits + 1, a, b => (b % 2 * a) ^^^ productOf bits (doubleOf a) (b / 2)

/-- The number of the inverse in the field. -/
def inverseOf (a : ℕ) : ℕ :=
  (List.range 6).foldl (fun p _ => productOf 8 (productOf 8 p p) a) a |> fun p => productOf 8 p p

lemma toNat_double (a : UInt8) : (double a).toNat = doubleOf a.toNat := by
  have hlt := a.toNat_lt
  have hshift : (a <<< 1).toNat = 2 * a.toNat % 256 := by
    rw [UInt8.toNat_shiftLeft, UInt8.toNat_ofNat, Nat.shiftLeft_eq, Nat.mul_comm]
  rw [double, doubleOf]
  split
  case isTrue h =>
      have hsmall : a.toNat < 128 := by simpa [UInt8.lt_iff_toNat_lt] using h
      rw [hshift, Nat.div_eq_of_lt hsmall, Nat.mul_zero, Nat.xor_zero]
  case isFalse h =>
      have hlarge : ¬ a.toNat < 128 := by simpa [UInt8.lt_iff_toNat_lt] using h
      have hone : a.toNat / 128 = 1 := by omega
      rw [UInt8.toNat_xor, hshift, hone]
      rfl

lemma toNat_productFrom (bits : ℕ) (a b : UInt8) :
    (productFrom bits a b).toNat = productOf bits a.toNat b.toNat := by
  induction bits generalizing a b with
  | zero => rfl
  | succ bits ih =>
      have hhalf : (b / 2).toNat = b.toNat / 2 := UInt8.toNat_div b 2
      have hbit : (if b % 2 == 1 then a else 0).toNat = b.toNat % 2 * a.toNat := by
        have hmod : (b % 2).toNat = b.toNat % 2 := UInt8.toNat_mod b 2
        simp only [beq_iff_eq, ← UInt8.toNat_inj, hmod]
        rcases Nat.mod_two_eq_zero_or_one b.toNat with hzero | hone
        · simp [hzero]
        · simp [hone]
      rw [productFrom, productOf, UInt8.toNat_xor, ih, toNat_double, hhalf, hbit]

lemma toNat_product (a b : UInt8) : (product a b).toNat = productOf 8 a.toNat b.toNat :=
  toNat_productFrom 8 a b

lemma toNat_inverse (a : UInt8) : (inverse a).toNat = inverseOf a.toNat := by
  have hpower (ns : List ℕ) (p : UInt8) :
      (ns.foldl (fun p _ => product (product p p) a) p).toNat =
        ns.foldl (fun p _ => productOf 8 (productOf 8 p p) a.toNat) p.toNat := by
    induction ns generalizing p with
    | nil => rfl
    | cons n ns ih => rw [List.foldl_cons, List.foldl_cons, ih, toNat_product, toNat_product]
  rw [inverse, inverseOf, toNat_product, hpower]

/-- What holds of the byte of each number below 256 holds of every byte. -/
lemma forall_byte {p : UInt8 → Prop} (h : ∀ n < 256, p (UInt8.ofNat n)) (a : UInt8) : p a := by
  simpa using h a.toNat a.toNat_lt

/-! ### Substitution -/

lemma inverse_inverse (a : UInt8) : inverse (inverse a) = a := by
  have hall : ∀ n < 256, inverseOf (inverseOf n) = n := by decide +kernel
  rw [← UInt8.toNat_inj, toNat_inverse, toNat_inverse]
  exact hall a.toNat a.toNat_lt

/-- The affine map of a substitution. -/
def affine (b : UInt8) : UInt8 :=
  b ^^^ rotate b 1 ^^^ rotate b 2 ^^^ rotate b 3 ^^^ rotate b 4 ^^^ 0x63

/-- The affine map undone. -/
def unaffine (b : UInt8) : UInt8 := rotate b 1 ^^^ rotate b 3 ^^^ rotate b 6 ^^^ 0x05

lemma unaffine_affine (b : UInt8) : unaffine (affine b) = b := by
  revert b
  exact forall_byte (by decide +kernel)

lemma substitute_injective : Function.Injective substitute := by
  intro a b h
  have haffine : inverse a = inverse b := by
    rw [← unaffine_affine (inverse a), ← unaffine_affine (inverse b)]
    exact congrArg unaffine h
  rw [← inverse_inverse a, haffine, inverse_inverse]

lemma getD_substitutions (b : UInt8) : substitutions.getD b.toNat 0 = substitute b := by
  simp [substitutions, Array.getD_eq_getD_getElem?, b.toNat_lt]

/-- A table that is filled at places that differ has at each of them what was put there. -/
lemma getD_foldl_setIfInBounds {place : ℕ → ℕ} {item : ℕ → UInt8} {m : ℕ} {ns : List ℕ}
    {t : Array UInt8} (hplace : ∀ n ∈ ns, place n = place m → n = m) (hsize : place m < t.size)
    (h : m ∈ ns ∨ t.getD (place m) 0 = item m) :
    (ns.foldl (fun t n => t.setIfInBounds (place n) (item n)) t).getD (place m) 0 = item m := by
  induction ns generalizing t with
  | nil => simpa using h
  | cons n ns ih =>
      rw [List.foldl_cons]
      refine ih (fun n hn => hplace n (List.mem_cons_of_mem _ hn)) (by simpa using hsize) ?_
      rcases eq_or_ne n m with rfl | hne
      · exact .inr (by simp [Array.getD_eq_getD_getElem?, hsize])
      · have hother : place n ≠ place m := mt (hplace n List.mem_cons_self) hne
        refine h.imp (fun hmem => (List.mem_cons.mp hmem).resolve_left hne.symm) fun hitem => ?_
        rw [Array.getD_eq_getD_getElem?, Array.getElem?_setIfInBounds_ne hother,
          ← Array.getD_eq_getD_getElem?, hitem]

lemma getD_reverseSubstitutions (b : UInt8) :
    reverseSubstitutions.getD (substitute b).toNat 0 = b := by
  have hplace : (substitutions.getD b.toNat 0).toNat = (substitute b).toNat := by
    rw [getD_substitutions]
  have hmem : b.toNat ∈ List.range 256 := List.mem_range.mpr b.toNat_lt
  have hdiffer : ∀ n ∈ List.range 256, (substitutions.getD n 0).toNat =
      (substitutions.getD b.toNat 0).toNat → n = b.toNat := by
    intro n hn heq
    have hn' : (UInt8.ofNat n).toNat = n := by
      rw [UInt8.toNat_ofNat', Nat.mod_eq_of_lt (List.mem_range.mp hn)]
    rw [← hn', getD_substitutions, getD_substitutions, UInt8.toNat_inj] at heq
    rw [← hn', substitute_injective heq]
  have hfilled : ((List.range 256).foldl (fun t n =>
      t.setIfInBounds (substitutions.getD n 0).toNat n.toUInt8) (Array.replicate 256 0)).getD
        (substitutions.getD b.toNat 0).toNat 0 = b.toNat.toUInt8 :=
    getD_foldl_setIfInBounds hdiffer
      (by simpa using (substitutions.getD b.toNat 0).toNat_lt) (.inl hmem)
  rw [hplace] at hfilled
  rw [reverseSubstitutions, ← Array.foldl_toList, Array.toList_range, hfilled]
  simp

lemma subBytes_subBytes (s : List UInt8) :
    subBytes reverseSubstitutions (subBytes substitutions s) = s := by
  have hbyte (b : UInt8) :
      reverseSubstitutions.getD (substitutions.getD b.toNat 0).toNat 0 = b := by
    rw [getD_substitutions, getD_reverseSubstitutions]
  induction s with
  | nil => rfl
  | cons b s ih =>
      rw [subBytes, subBytes, List.map_cons, List.map_cons, hbyte]
      exact congrArg (b :: ·) ih

@[simp] lemma length_subBytes (table : Array UInt8) (s : List UInt8) :
    (subBytes table s).length = s.length := List.length_map _

/-! ### Rows -/

@[simp] lemma length_permuted (place : ℕ → ℕ) (s : List UInt8) :
    (permuted place s).length = 16 := by
  simp [permuted]

/-- Places that lead back to one another give the block back. -/
lemma permuted_permuted {place back : ℕ → ℕ} (hback : ∀ i < 16, back i < 16 ∧ place (back i) = i)
    {s : List UInt8} (hs : s.length = 16) : permuted back (permuted place s) = s := by
  apply List.ext_getElem (by rw [length_permuted, hs])
  intro i hi _
  rw [length_permuted] at hi
  obtain ⟨hlt, hplace⟩ := hback i hi
  simp [permuted, Array.getD_eq_getD_getElem?, hlt, hplace, hs, hi]

lemma unshiftRows_shiftRows {s : List UInt8} (hs : s.length = 16) :
    unshiftRows (shiftRows s) = s :=
  permuted_permuted (by decide) hs

/-! ### Columns -/

/-- The product is additive in its second factor. -/
lemma product_xor (a b c : UInt8) : product a (b ^^^ c) = product a b ^^^ product a c := by
  have hbit (a b c : ℕ) : (b ^^^ c) % 2 * a = (b % 2 * a) ^^^ (c % 2 * a) := by
    have hmod : (b ^^^ c) % 2 = (b % 2) ^^^ (c % 2) := Nat.xor_mod_two_pow (n := 1)
    rcases Nat.mod_two_eq_zero_or_one b with hb | hb <;>
      rcases Nat.mod_two_eq_zero_or_one c with hc | hc <;> simp [hmod, hb, hc]
  have hbits (bits a b c : ℕ) :
      productOf bits a (b ^^^ c) = productOf bits a b ^^^ productOf bits a c := by
    induction bits generalizing a b c with
    | zero => exact (Nat.xor_self 0).symm
    | succ bits ih =>
        rw [productOf, productOf, productOf, Nat.xor_div_two, ih, hbit]
        ac_rfl
  rw [← UInt8.toNat_inj, UInt8.toNat_xor, toNat_product, toNat_product, toNat_product,
    UInt8.toNat_xor, hbits]

/-- The entries of the product of the two matrices: one on the diagonal, and zero beside it. -/
lemma product_unmixing (a : UInt8) :
    product 14 (product 2 a) ^^^ product 11 (product 1 a) ^^^ product 13 (product 1 a) ^^^
      product 9 (product 3 a) = a ∧
    product 14 (product 3 a) ^^^ product 11 (product 2 a) ^^^ product 13 (product 1 a) ^^^
      product 9 (product 1 a) = 0 ∧
    product 14 (product 1 a) ^^^ product 11 (product 3 a) ^^^ product 13 (product 2 a) ^^^
      product 9 (product 1 a) = 0 ∧
    product 14 (product 1 a) ^^^ product 11 (product 1 a) ^^^ product 13 (product 3 a) ^^^
      product 9 (product 2 a) = 0 := by
  have hall : ∀ n < 256,
      productOf 8 14 (productOf 8 2 n) ^^^ productOf 8 11 (productOf 8 1 n) ^^^
        productOf 8 13 (productOf 8 1 n) ^^^ productOf 8 9 (productOf 8 3 n) = n ∧
      productOf 8 14 (productOf 8 3 n) ^^^ productOf 8 11 (productOf 8 2 n) ^^^
        productOf 8 13 (productOf 8 1 n) ^^^ productOf 8 9 (productOf 8 1 n) = 0 ∧
      productOf 8 14 (productOf 8 1 n) ^^^ productOf 8 11 (productOf 8 3 n) ^^^
        productOf 8 13 (productOf 8 2 n) ^^^ productOf 8 9 (productOf 8 1 n) = 0 ∧
      productOf 8 14 (productOf 8 1 n) ^^^ productOf 8 11 (productOf 8 1 n) ^^^
        productOf 8 13 (productOf 8 3 n) ^^^ productOf 8 9 (productOf 8 2 n) = 0 := by
    decide +kernel
  simp only [← UInt8.toNat_inj, UInt8.toNat_xor, toNat_product, UInt8.reduceToNat]
  exact hall a.toNat a.toNat_lt

/-- A column multiplied by a matrix, written out. -/
lemma mixColumn_eq (r s t u a b c d : UInt8) :
    mixColumn [r, s, t, u] [a, b, c, d] =
      [product r a ^^^ product s b ^^^ product t c ^^^ product u d,
       product u a ^^^ product r b ^^^ product s c ^^^ product t d,
       product t a ^^^ product u b ^^^ product r c ^^^ product s d,
       product s a ^^^ product t b ^^^ product u c ^^^ product r d] := by
  have hrows : mixColumn [r, s, t, u] [a, b, c, d] =
      [0 ^^^ product r a ^^^ product s b ^^^ product t c ^^^ product u d,
       0 ^^^ product u a ^^^ product r b ^^^ product s c ^^^ product t d,
       0 ^^^ product t a ^^^ product u b ^^^ product r c ^^^ product s d,
       0 ^^^ product s a ^^^ product t b ^^^ product u c ^^^ product r d] := rfl
  rw [hrows]
  simp only [UInt8.zero_xor]

/-- The first byte of a column comes back when the mixed column is multiplied by the inverse. -/
lemma product_mixed (a b c d : UInt8) :
    product 14 (product 2 a ^^^ product 3 b ^^^ product 1 c ^^^ product 1 d) ^^^
      product 11 (product 1 a ^^^ product 2 b ^^^ product 3 c ^^^ product 1 d) ^^^
      product 13 (product 1 a ^^^ product 1 b ^^^ product 2 c ^^^ product 3 d) ^^^
      product 9 (product 3 a ^^^ product 1 b ^^^ product 1 c ^^^ product 2 d) = a := by
  have hregroup (a₁ b₁ c₁ d₁ a₂ b₂ c₂ d₂ a₃ b₃ c₃ d₃ a₄ b₄ c₄ d₄ : UInt8) :
      (a₁ ^^^ b₁ ^^^ c₁ ^^^ d₁) ^^^ (a₂ ^^^ b₂ ^^^ c₂ ^^^ d₂) ^^^ (a₃ ^^^ b₃ ^^^ c₃ ^^^ d₃) ^^^
        (a₄ ^^^ b₄ ^^^ c₄ ^^^ d₄) =
      (a₁ ^^^ a₂ ^^^ a₃ ^^^ a₄) ^^^ (b₁ ^^^ b₂ ^^^ b₃ ^^^ b₄) ^^^ (c₁ ^^^ c₂ ^^^ c₃ ^^^ c₄) ^^^
        (d₁ ^^^ d₂ ^^^ d₃ ^^^ d₄) := by ac_rfl
  simp only [product_xor]
  rw [hregroup, (product_unmixing a).1, (product_unmixing b).2.1, (product_unmixing c).2.2.1,
    (product_unmixing d).2.2.2]
  simp only [UInt8.xor_zero]

lemma mixColumn_mixColumn {column : List UInt8} (h : column.length = 4) :
    mixColumn unmixing (mixColumn mixing column) = column := by
  obtain ⟨a, b, c, d, rfl⟩ := List.length_eq_four.mp h
  rw [mixing, unmixing, mixColumn_eq, mixColumn_eq]
  -- The matrices are made of rotations of one row, so each byte is the first of a rotated column.
  simp only [List.cons.injEq, and_true]
  refine ⟨product_mixed a b c d, ?_, ?_, ?_⟩
  · exact Eq.trans (by ac_rfl) (product_mixed b c d a)
  · exact Eq.trans (by ac_rfl) (product_mixed c d a b)
  · exact Eq.trans (by ac_rfl) (product_mixed d a b c)

@[simp] lemma length_mixColumn (row column : List UInt8) : (mixColumn row column).length = 4 := by
  simp [mixColumn]

/-- Mixed columns are the columns of what they are put together to. -/
lemma chunks_mixColumns (row s : List UInt8) :
    Bytes.chunks 4 (mixColumns row s) = (Bytes.chunks 4 s).map (mixColumn row) := by
  have hcut : Bytes.IsCut 4 ((Bytes.chunks 4 s).map (mixColumn row)) := by
    refine Bytes.isCut_of_length_eq fun column hmem => ?_
    obtain ⟨before, _, rfl⟩ := List.mem_map.mp hmem
    exact length_mixColumn row before
  rw [mixColumns, List.flatMap_def, hcut.chunks_flatten (by decide)]

lemma mixColumns_mixColumns {s : List UInt8} (hs : 4 ∣ s.length) :
    mixColumns unmixing (mixColumns mixing s) = s := by
  have hcolumn : ∀ column ∈ Bytes.chunks 4 s,
      mixColumn unmixing (mixColumn mixing column) = column := fun column hmem =>
    mixColumn_mixColumn (Bytes.length_of_mem_chunks (by decide) hs column hmem)
  rw [mixColumns, chunks_mixColumns, List.flatMap_map, List.flatMap_congr hcolumn, List.flatMap_id',
    Bytes.flatten_chunks (by decide)]

lemma length_mixColumns {row s : List UInt8} (hs : 4 ∣ s.length) :
    (mixColumns row s).length = s.length := by
  have hcolumn : ∀ column ∈ Bytes.chunks 4 s, column.length = 4 :=
    Bytes.length_of_mem_chunks (by decide) hs
  have hmixed : ∀ column ∈ (Bytes.chunks 4 s).map (mixColumn row), column.length = 4 := by
    simp
  rw [mixColumns, List.flatMap_def, Bytes.length_flatten_of_eq hmixed, List.length_map,
    ← Bytes.length_flatten_of_eq hcolumn, Bytes.flatten_chunks (by decide)]

/-! ### Rounds -/

/-- A round that mixes columns. -/
def round (s key : List UInt8) : List UInt8 :=
  Bytes.xor (mixColumns mixing (shiftRows (subBytes substitutions s))) key

/-- Such a round undone. -/
def unround (s key : List UInt8) : List UInt8 :=
  subBytes reverseSubstitutions (unshiftRows (mixColumns unmixing (Bytes.xor s key)))

lemma length_round (s : List UInt8) {key : List UInt8} (hkey : key.length = 16) :
    (round s key).length = 16 := by
  have hrows : (shiftRows (subBytes substitutions s)).length = 16 := length_permuted _ _
  rw [round, Bytes.length_xor, length_mixColumns (by omega), hrows, hkey, Nat.min_self]

lemma unround_round {s key : List UInt8} (hs : s.length = 16) (hkey : key.length = 16) :
    unround (round s key) key = s := by
  have hbytes : (subBytes substitutions s).length = 16 := by rw [length_subBytes, hs]
  have hrows : (shiftRows (subBytes substitutions s)).length = 16 := length_permuted _ _
  have hmixed : (mixColumns mixing (shiftRows (subBytes substitutions s))).length = _ :=
    length_mixColumns (by omega)
  rw [unround, round, Bytes.xor_xor (by omega), mixColumns_mixColumns (by omega),
    unshiftRows_shiftRows hbytes, subBytes_subBytes]

lemma length_foldl_round {keys : List (List UInt8)} (hkeys : ∀ key ∈ keys, key.length = 16)
    {s : List UInt8} (hs : s.length = 16) : (keys.foldl round s).length = 16 := by
  induction keys generalizing s with
  | nil => exact hs
  | cons key keys ih =>
      have hkey : key.length = 16 := hkeys key List.mem_cons_self
      exact ih (fun k hk => hkeys k (List.mem_cons_of_mem _ hk)) (length_round s hkey)

/-- Rounds are undone in the opposite order. -/
lemma foldl_unround {keys : List (List UInt8)} (hkeys : ∀ key ∈ keys, key.length = 16)
    {s : List UInt8} (hs : s.length = 16) :
    keys.reverse.foldl unround (keys.foldl round s) = s := by
  induction keys generalizing s with
  | nil => rfl
  | cons key keys ih =>
      have hkey : key.length = 16 := hkeys key List.mem_cons_self
      rw [List.foldl_cons, List.reverse_cons, List.foldl_append,
        ih (fun k hk => hkeys k (List.mem_cons_of_mem _ hk)) (length_round s hkey),
        List.foldl_cons, List.foldl_nil, unround_round hs hkey]

lemma encryptRounds_append (s : List UInt8) (keys : List (List UInt8)) (last : List UInt8) :
    encryptRounds s (keys ++ [last]) =
      Bytes.xor (shiftRows (subBytes substitutions (keys.foldl round s))) last := by
  induction keys generalizing s with
  | nil => rfl
  | cons key keys ih =>
      have hne : keys ++ [last] ≠ [] := by simp
      rw [List.cons_append, encryptRounds, List.foldl_cons, ← ih]
      · rfl
      · exact hne

lemma decryptRounds_append (s : List UInt8) (keys : List (List UInt8)) (last : List UInt8) :
    decryptRounds s (keys ++ [last]) = Bytes.xor (keys.foldl unround s) last := by
  induction keys generalizing s with
  | nil => rfl
  | cons key keys ih =>
      have hne : keys ++ [last] ≠ [] := by simp
      rw [List.cons_append, decryptRounds, List.foldl_cons, ← ih]
      · rfl
      · exact hne

/-! ### Blocks -/

section

variable {keys : List (List UInt8)} {block : List UInt8}

lemma exists_first_last (hcount : 2 ≤ keys.length) :
    ∃ first middle last, keys = first :: (middle ++ [last]) := by
  match keys, hcount with
  | first :: second :: rest, _ =>
      obtain ⟨middle, last, h⟩ := (List.eq_nil_or_concat (second :: rest)).resolve_left (by simp)
      exact ⟨first, middle, last, by rw [h, List.concat_eq_append]⟩

lemma length_encryptBlock (hkeys : ∀ key ∈ keys, key.length = 16) (hcount : 2 ≤ keys.length)
    (block : List UInt8) : (encryptBlock keys block).length = 16 := by
  obtain ⟨first, middle, last, rfl⟩ := exists_first_last hcount
  have hlast : last.length = 16 := hkeys last (by simp)
  have hrows (s : List UInt8) : (shiftRows s).length = 16 := length_permuted _ s
  rw [encryptBlock, encryptRounds_append, Bytes.length_xor, hrows, hlast, Nat.min_self]

/-- An encrypted block is decrypted to what it was, under any keys that are long enough. -/
theorem decryptBlock_encryptBlock (hkeys : ∀ key ∈ keys, key.length = 16)
    (hcount : 2 ≤ keys.length) (hblock : block.length = 16) :
    decryptBlock keys (encryptBlock keys block) = block := by
  obtain ⟨first, middle, last, rfl⟩ := exists_first_last hcount
  have hfirst : first.length = 16 := hkeys first (by simp)
  have hlast : last.length = 16 := hkeys last (by simp)
  have hmiddle : ∀ key ∈ middle, key.length = 16 := fun key hkey => hkeys key (by simp [hkey])
  have hreverse : (first :: (middle ++ [last])).reverse = last :: (middle.reverse ++ [first]) := by
    simp
  have hstart : (Bytes.xor block first).length = 16 := by
    rw [Bytes.length_xor, hblock, hfirst, Nat.min_self]
  have hrounds : (middle.foldl round (Bytes.xor block first)).length = 16 :=
    length_foldl_round hmiddle hstart
  have hbytes :
      (subBytes substitutions (middle.foldl round (Bytes.xor block first))).length = 16 := by
    rw [length_subBytes, hrounds]
  have hrows (s : List UInt8) : (shiftRows s).length = 16 := length_permuted _ s
  rw [encryptBlock, encryptRounds_append, decryptBlock, hreverse]
  dsimp only
  rw [Bytes.xor_xor (by rw [hrows, hlast]), unshiftRows_shiftRows hbytes, subBytes_subBytes,
    decryptRounds_append, foldl_unround hmiddle hstart, Bytes.xor_xor (by omega)]

end

/-! ### The key schedule -/

section

variable {size : ℕ} {words : Array (List UInt8)}

lemma length_getD_words (hwords : ∀ w ∈ words, w.length = 4) {i : ℕ} (hi : i < words.size) :
    (words.getD i []).length = 4 := by
  rw [Array.getD_eq_getD_getElem?, Array.getElem?_eq_getElem hi, Option.getD_some]
  exact hwords _ (Array.getElem_mem hi)

lemma length_nextWord (hsize : 0 < size) (hwords : ∀ w ∈ words, w.length = 4)
    (hpos : 0 < words.size) (constant : UInt8) : (nextWord size words constant).length = 4 := by
  have hlast : (words.getD (words.size - 1) []).length = 4 :=
    length_getD_words hwords (by omega)
  have hbefore : (words.getD (words.size - size) []).length = 4 :=
    length_getD_words hwords (by omega)
  rw [nextWord, Bytes.length_xor, hbefore]
  split
  · rw [Bytes.length_xor, length_subBytes, List.length_append, List.length_drop, List.length_take,
      hlast]
    rfl
  · split
    · rw [length_subBytes, hlast, Nat.min_self]
    · rw [hlast, Nat.min_self]

/-- Every word of the schedule has four bytes. -/
lemma extend_words (hsize : 0 < size) (hwords : ∀ w ∈ words, w.length = 4) (hpos : 0 < words.size)
    (more : ℕ) (constant : UInt8) :
    (extend size more words constant).size = words.size + more ∧
      ∀ w ∈ extend size more words constant, w.length = 4 := by
  induction more generalizing words constant with
  | zero => exact ⟨rfl, hwords⟩
  | succ more ih =>
      have hnext : ∀ w ∈ words.push (nextWord size words constant), w.length = 4 := by
        intro w hw
        rcases Array.mem_push.mp hw with hw | rfl
        · exact hwords w hw
        · exact length_nextWord hsize hwords hpos constant
      obtain ⟨hcount, hall⟩ := ih hnext (by simp)
        (if words.size % size == 0 then double constant else constant)
      refine ⟨?_, hall⟩
      rw [extend, hcount, Array.size_push]
      omega

end

/-- The keys of the rounds are blocks, and there is one more of them than rounds. -/
lemma roundKeys_blocks {size : ℕ} (hsize : 0 < size) {key : List UInt8}
    (hkey : key.length = 4 * size) :
    (roundKeys key).length = size + 7 ∧ ∀ k ∈ roundKeys key, k.length = 16 := by
  have hwords : ∀ w ∈ Bytes.chunks 4 key, w.length = 4 :=
    Bytes.length_of_mem_chunks (by decide) (by omega)
  have hcount : (Bytes.chunks 4 key).length = size := by
    have hlength := Bytes.length_flatten_of_eq hwords
    rw [Bytes.flatten_chunks (by decide)] at hlength
    omega
  obtain ⟨schedule, hschedule⟩ : ∃ schedule,
      schedule = extend size (4 * (size + 7) - size) (Bytes.chunks 4 key).toArray 1 := ⟨_, rfl⟩
  obtain ⟨htotal, hall⟩ : schedule.size = size + (4 * (size + 7) - size) ∧
      ∀ w ∈ schedule, w.length = 4 := by
    rw [hschedule, ← hcount]
    exact extend_words (by rwa [hcount]) (by simpa using hwords)
      (by rwa [List.size_toArray, hcount]) _ 1
  have hbytes : schedule.toList.flatten.length = 16 * (size + 7) := by
    rw [Bytes.length_flatten_of_eq (by simpa using hall), Array.length_toList, htotal]
    omega
  have hblocks : ∀ k ∈ Bytes.chunks 16 schedule.toList.flatten, k.length = 16 :=
    Bytes.length_of_mem_chunks (by decide) ⟨_, hbytes⟩
  have hflatten := Bytes.length_flatten_of_eq hblocks
  rw [Bytes.flatten_chunks (by decide), hbytes] at hflatten
  have hkeys : roundKeys key = Bytes.chunks 16 schedule.toList.flatten := by
    rw [roundKeys, hschedule, show key.length / 4 = size by omega]
  rw [hkeys]
  exact ⟨by omega, hblocks⟩

/-! ### The package -/

lemma exists_size_of_isKey {key : List UInt8} (h : IsKey key) :
    ∃ size, 0 < size ∧ key.length = 4 * size := by
  obtain h | h | h := h
  · exact ⟨4, by decide, h⟩
  · exact ⟨6, by decide, h⟩
  · exact ⟨8, by decide, h⟩

/-- Under every key, decrypting a block undoes encrypting it. -/
lemma cipher_inverts : cipher.Inverts := by
  have hkeys {key : List UInt8} (h : IsKey key) :
      2 ≤ (roundKeys key).length ∧ ∀ k ∈ roundKeys key, k.length = 16 := by
    obtain ⟨size, hsize, hkey⟩ := exists_size_of_isKey h
    obtain ⟨hcount, hblocks⟩ := roundKeys_blocks hsize hkey
    exact ⟨by omega, hblocks⟩
  refine ⟨fun hkey _ => ?_, fun hkey hblock => ?_⟩
  · exact length_encryptBlock (hkeys hkey).2 (hkeys hkey).1 _
  · exact decryptBlock_encryptBlock (hkeys hkey).2 (hkeys hkey).1 hblock

lemma taken_of_takes {mode : Mode} {message : List UInt8} (h : mode.Takes message) :
    taken mode message = .ok message := by
  rw [taken, if_neg]
  simp only [Bool.and_eq_true, beq_iff_eq, bne_iff_ne, not_and, not_not]
  exact fun hmode => Nat.mod_eq_zero_of_dvd (h hmode)

/-- The package that runs follows the standards. -/
lemma package_follows : package.Follows cipher where
  accept _ hstart := if_pos (beq_iff_eq.mpr hstart)
  encrypt _ _ htakes := congrArg (Except.map _) (taken_of_takes htakes)
  decrypt _ _ htakes := congrArg (Except.map _) (taken_of_takes htakes)
  pad _ := rfl
  unpad h := by simp only [package, h]

end Sigil.Cipher.Aes
