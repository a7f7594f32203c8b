/-
# Digests by name

The digests that can be asked for, under all spellings of their names in small letters.
-/
import Sigil.Digest.Blake2
import Sigil.Digest.Md5
import Sigil.Digest.Ripemd
import Sigil.Digest.Sha1
import Sigil.Digest.Sha2
import Sigil.Digest.Sha3
import Sigil.Digest.Sm3

namespace Sigil.Digest

/-- What a name of a digest stands for. -/
inductive Algorithm where
  /-- A digest of fixed size. -/
  | fixed (digest : List UInt8 → List UInt8)
  /-- A digest whose size would have to be given. -/
  | extendable

/-- The digests with their names. -/
def algorithms : List (List String × Algorithm) :=
  [(["md5", "ssl3-md5"], .fixed Md5.digest),
   (["sha1", "sha-1", "ssl3-sha1"], .fixed Sha1.digest),
   (["md5-sha1"], .fixed fun m => Md5.digest m ++ Sha1.digest m),
   (["ripemd160", "ripemd-160", "ripemd", "rmd160"], .fixed Ripemd.digest),
   (["sm3"], .fixed Sm3.digest),
   (["sha224", "sha-224", "sha2-224"], .fixed Sha2.sha224),
   (["sha256", "sha-256", "sha2-256"], .fixed Sha2.sha256),
   (["sha384", "sha-384", "sha2-384"], .fixed Sha2.sha384),
   (["sha512", "sha-512", "sha2-512"], .fixed Sha2.sha512),
   (["sha512_224", "sha512-224", "sha-512/224", "sha2-512/224"], .fixed Sha2.sha512short224),
   (["sha512_256", "sha512-256", "sha-512/256", "sha2-512/256"], .fixed Sha2.sha512short256),
   (["sha3_224", "sha3-224"], .fixed (Sha3.digest 28)),
   (["sha3_256", "sha3-256"], .fixed (Sha3.digest 32)),
   (["sha3_384", "sha3-384"], .fixed (Sha3.digest 48)),
   (["sha3_512", "sha3-512"], .fixed (Sha3.digest 64)),
   (["shake_128", "shake-128", "shake128", "shake_256", "shake-256", "shake256"], .extendable),
   (["blake2b", "blake2b512", "blake2b-512"], .fixed Blake2.blake2b),
   (["blake2s", "blake2s256", "blake2s-256"], .fixed Blake2.blake2s)]

/-- The digest of a name. -/
def algorithm? (name : String) : Option Algorithm :=
  (algorithms.find? fun (names, _) => names.contains name).map (·.2)

end Sigil.Digest
