/-
# Identifiers

Universally unique identifiers: random ones, those by time, and those by name within a namespace
that is an identifier itself.
-/
import Sigil.Digest.Basic
import Sigil.Library.Function
import Sigil.Uuid

namespace Sigil.Library

/-- A random identifier. -/
def randomIdentifier (h : Host) : Value := textValue (Uuid.render (Uuid.mark 4 (h.randomBytes 16)))

/-- An identifier by the present time. -/
def timeIdentifier (h : Host) : Value :=
  let ticks := h.now.unixSeconds * 10000000 + h.now.clock.microsecond * 10
  let node := h.randomBytes 8
  textValue (Uuid.render (Uuid.ofTime ticks.toNat (node.take 2) (node.drop 2)))

/-- The text that an identifier may be: one line break at its end is allowed. -/
def identifierText? : Value → Option (List Char)
  | .text s =>
    let cs := s.toList
    let line := if cs.getLast? == some '\n' then cs.dropLast else cs
    if Uuid.isValid line then some cs else none
  | _ => none

/-- The fault of a text that is no identifier. -/
def invalidIdentifier (start : String) (v : Value) : Fault :=
  Fault.worded .value (v.plain.map (start ++ ·))

/-- The identifier of a version that a digest gives for a name within a namespace.  The digest is
that of the bytes of the name, which every text has; a surrogate would have none. -/
def namedIdentifier (version : Nat) (digest : List UInt8 → List UInt8) (name space : Value) :
    Result :=
  match identifierText? space with
  | none => .error (invalidIdentifier "INVALID NAMESPACE UUID: " space)
  | some s =>
    if s.length != 36 then .error (Fault.value "badly formed hexadecimal UUID string")
    else do
      let text ← name.toText
      pure (textValue (Uuid.render (Uuid.mark version
        (digest (Uuid.bytesOf s ++ Bytes.ofText text)))))

/-- The version of an identifier. -/
def identifierVersion (v : Value) : Result :=
  match identifierText? v with
  | none => .error (invalidIdentifier "Invalid UUID: " v)
  | some s => .ok (.int (Uuid.digitAt s 14))

/-- The functions of this file. -/
def identifiers : List Builtin :=
  [⟨⟨"uuid", [], [], false, false⟩, fun h _ _ => .ok (randomIdentifier h)⟩,
   ⟨⟨"uuidv1", [], [], false, false⟩, fun h _ _ => .ok (timeIdentifier h)⟩,
   binary "uuidv3" ["name", "namespace"] (namedIdentifier 3 Digest.Md5.digest),
   binary "uuidv5" ["name", "namespace"] (namedIdentifier 5 Digest.Sha1.digest),
   unary "uuidvalidate" "value" fun v => .ok (.bool (identifierText? v).isSome),
   unary "uuidversion" "value" identifierVersion]

end Sigil.Library
