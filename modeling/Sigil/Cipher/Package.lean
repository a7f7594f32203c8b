/-
# Packages of ciphers

What is used of a package that encrypts messages, and what is documented of such a package: that it
has a cipher on blocks which can be undone, and that it follows the standards for the modes of
operation and for padding.
-/
import Sigil.Cipher.Mode
import Sigil.Fault

namespace Sigil.Cipher

/-- A cipher on blocks of sixteen bytes. -/
structure BlockCipher where
  /-- A block encrypted under a key. -/
  encrypt (key block : List UInt8) : List UInt8
  /-- A block decrypted under a key. -/
  decrypt (key block : List UInt8) : List UInt8

/-- What is used of a package.  Each use of it may fail. -/
structure Package where
  /-- Takes a key and the block that a mode starts from, or refuses them. -/
  accept (mode : Mode) (key start : List UInt8) : Except Fault Unit
  /-- A message encrypted under a key, from a starting block. -/
  encrypt (mode : Mode) (key start message : List UInt8) : Except Fault (List UInt8)
  /-- A message decrypted under a key, from a starting block. -/
  decrypt (mode : Mode) (key start message : List UInt8) : Except Fault (List UInt8)
  /-- A message filled up to whole blocks. -/
  pad (message : List UInt8) : Except Fault (List UInt8)
  /-- A message without what fills it up. -/
  unpad (padded : List UInt8) : Except Fault (List UInt8)

/-- A key of 128, 192 or 256 bits. -/
def IsKey (key : List UInt8) : Prop := key.length = 16 ∨ key.length = 24 ∨ key.length = 32

/-- Under every key, decrypting a block undoes encrypting it. -/
structure BlockCipher.Inverts (cipher : BlockCipher) : Prop where
  /-- A block is encrypted to a block. -/
  length_encrypt {key block : List UInt8} : IsKey key → block.length = 16 →
    (cipher.encrypt key block).length = 16
  /-- The block comes back. -/
  decrypt_encrypt {key block : List UInt8} : IsKey key → block.length = 16 →
    cipher.decrypt key (cipher.encrypt key block) = block

/-- The message is one that a mode takes: a chain only has whole blocks. -/
def Mode.Takes (mode : Mode) (message : List UInt8) : Prop := mode = .cbc → 16 ∣ message.length

/-- The package follows the standards with this cipher on blocks. -/
structure Package.Follows (package : Package) (cipher : BlockCipher) : Prop where
  /-- Every key and every starting block of the right length is taken. -/
  accept {mode : Mode} {key start : List UInt8} : IsKey key → start.length = 16 →
    package.accept mode key start = .ok ()
  /-- A message is encrypted in the mode. -/
  encrypt {mode : Mode} {key start message : List UInt8} : IsKey key → start.length = 16 →
    mode.Takes message →
      package.encrypt mode key start message = .ok (mode.encrypt (cipher.encrypt key) start message)
  /-- A message is decrypted in the mode. -/
  decrypt {mode : Mode} {key start message : List UInt8} : IsKey key → start.length = 16 →
    mode.Takes message → package.decrypt mode key start message =
      .ok (mode.decrypt (cipher.encrypt key) (cipher.decrypt key) start message)
  /-- A message is filled up. -/
  pad (message : List UInt8) : package.pad message = .ok (addPadding message)
  /-- What fills a message up is taken away. -/
  unpad {padded message : List UInt8} : removePadding? padded = some message →
    package.unpad padded = .ok message

end Sigil.Cipher
