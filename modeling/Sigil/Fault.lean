/-
# Faults

What can go wrong in a conversion or in a library function.  A fault has a kind, which is part of
the messages that mention it, and a wording of its own.  Where another reader's grammar was
violated, that of patterns or of a document format, the fault has no fixed wording.
-/

namespace Sigil

/-- The kinds of fault. -/
inductive FaultKind where
  /-- A text or a number outside the domain of the operation. -/
  | value
  /-- A value of a type that the operation does not take. -/
  | type
  /-- A missing key. -/
  | key
  /-- A position outside a sequence. -/
  | index
  /-- A name that is not registered. -/
  | lookup
  /-- A result outside the range of its type. -/
  | overflow
  /-- A division by zero. -/
  | zeroDivision
  /-- An operation that a value does not offer. -/
  | missingOperation
  /-- Bytes that are no text in the expected encoding. -/
  | decoding
  /-- A text that has no bytes in the expected encoding. -/
  | encoding
  /-- A failure that a host function reports. -/
  | runtime
  /-- An ill-formed pattern. -/
  | pattern
  /-- An ill-formed TOML document. -/
  | toml
  /-- An ill-formed XML document. -/
  | xml
  /-- A value that a document format has no form for. -/
  | unrepresentable
deriving Repr, DecidableEq

namespace FaultKind

/-- The name of a kind in messages. -/
def name : FaultKind → String
  | value => "ValueError"
  | type => "TypeError"
  | key => "KeyError"
  | index => "IndexError"
  | lookup => "LookupError"
  | overflow => "OverflowError"
  | zeroDivision => "ZeroDivisionError"
  | missingOperation => "AttributeError"
  | decoding => "UnicodeDecodeError"
  | encoding => "UnicodeEncodeError"
  | runtime => "RuntimeError"
  | pattern => "error"
  | toml => "TOMLDecodeError"
  | xml => "ExpatError"
  | unrepresentable => "RepresenterError"

end FaultKind

/-- A fault: its kind and its wording, if it has one. -/
structure Fault where
  /-- The kind. -/
  kind : FaultKind
  /-- The wording; none where another reader chooses it. -/
  message : Option String
deriving Repr, DecidableEq

namespace Fault

/-- A fault of a text or number outside the domain. -/
def value (message : String) : Fault := ⟨.value, some message⟩

/-- A fault of a value of the wrong type. -/
def type (message : String) : Fault := ⟨.type, some message⟩

/-- A fault of a result out of range. -/
def overflow (message : String) : Fault := ⟨.overflow, some message⟩

/-- A division by zero. -/
def zeroDivision (message : String) : Fault := ⟨.zeroDivision, some message⟩

/-- An operation that a value does not offer. -/
def missingOperation (message : String) : Fault := ⟨.missingOperation, some message⟩

/-- A position outside a sequence. -/
def index (message : String) : Fault := ⟨.index, some message⟩

/-- The fault with a wording that shows values; where they are not shown, that is the fault. -/
def worded (kind : FaultKind) (wording : Except Fault String) : Fault :=
  match wording with
  | .ok message => ⟨kind, some message⟩
  | .error f => f

end Fault

end Sigil
