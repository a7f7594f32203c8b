/-
# Runs of bytes

Numbers as bytes in either order, and the division of a run into blocks of equal length.
-/

namespace Sigil.Bytes

/-- The `width` lowest bytes of a number, the lowest first. -/
def little : Nat → Nat → List UInt8
  | 0, _ => []
  | width + 1, n => (n % 256).toUInt8 :: little width (n / 256)

/-- The `width` lowest bytes of a number, the highest first. -/
def big (width n : Nat) : List UInt8 := (little width n).reverse

/-- The number with the given bytes, the lowest first. -/
def ofLittle (bytes : List UInt8) : Nat := bytes.foldr (fun b n => b.toNat + 256 * n) 0

/-- The number with the given bytes, the highest first. -/
def ofBig (bytes : List UInt8) : Nat := bytes.foldl (fun n b => 256 * n + b.toNat) 0

/-- Blocks of `width` items, at most `fuel` of them. -/
def chunksFrom {α : Type} (width : Nat) : Nat → List α → List (List α)
  | 0, _ => []
  | _, [] => []
  | fuel + 1, items => items.take width :: chunksFrom width fuel (items.drop width)

/-- The blocks of `width` items; the last one may be shorter. -/
def chunks {α : Type} (width : Nat) (items : List α) : List (List α) :=
  chunksFrom width items.length items

/-- The bytes of a text in UTF-8. -/
def ofText (s : String) : List UInt8 := s.toList.flatMap String.utf8EncodeChar

/-- Bytes combined one by one, up to the end of the shorter run. -/
def xor (a b : List UInt8) : List UInt8 := a.zipWith (· ^^^ ·) b

/-- The fewest zeros that make the length of a run, with `n` items so far, a multiple of a width. -/
def fill (width n : Nat) : List UInt8 := List.replicate ((width - n % width) % width) 0

end Sigil.Bytes
