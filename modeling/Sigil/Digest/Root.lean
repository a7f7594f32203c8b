/-
# Constants from roots of primes

The constants of a family of digests are the first bits behind the point of square and cube roots of
the first primes.
-/

namespace Sigil.Digest

/-- The greatest number whose power by `k` is at most `n`, built from `bits` bits downwards onto
`found`. -/
def rootFrom (k n : Nat) : Nat → Nat → Nat
  | 0, found => found
  | bits + 1, found =>
    let next := found + Nat.pow 2 bits
    rootFrom k n bits (if Nat.pow next k ≤ n then next else found)

/-- The first 64 bits behind the point of the `k`-th root of a number below 512. -/
def rootFraction (k n : Nat) : Nat := rootFrom k (n * Nat.pow 2 (64 * k)) 70 0 % Nat.pow 2 64

/-- The number has no divisor from 2 up to itself. -/
def isPrime (n : Nat) : Bool := 2 ≤ n && (List.range n).all fun d => d < 2 || n % d != 0

/-- The primes below 410, which are eighty. -/
def primes : List Nat := (List.range 410).filter isPrime

/-- The fractions of the square roots of the first sixteen primes. -/
def squareRoots : List UInt64 := (primes.take 16).map fun p => (rootFraction 2 p).toUInt64

/-- The fractions of the cube roots of the first eighty primes. -/
def cubeRoots : Array UInt64 := (primes.map fun p => (rootFraction 3 p).toUInt64).toArray

/-- The upper half of a word. -/
def upperHalf (x : UInt64) : UInt32 := (x >>> 32).toUInt32

/-- The lower half of a word. -/
def lowerHalf (x : UInt64) : UInt32 := x.toUInt32

end Sigil.Digest
