/-
# Replacement

A text in which another gives way to a third: the first occurrence, or with flags the matches of a
pattern.  In the replacement of a pattern a dollar sign with digits refers to a group.
-/
import Sigil.Library.Function
import Sigil.Pattern.Replace

namespace Sigil.Library

/-- The replacement with its references to groups as patterns know them, where `skip` characters
belong to one already read. -/
def groupReferencesFrom : Nat → List Char → List Char
  | _, [] => []
  | skip + 1, _ :: rest => groupReferencesFrom skip rest
  | 0, c :: rest =>
    let digits := if c == '$' then rest.takeWhile Text.isDigit else []
    if digits.isEmpty then c :: groupReferencesFrom 0 rest
    else "\\g<".toList ++ digits ++ '>' :: groupReferencesFrom digits.length rest

/-- The flags that a text of letters sets. -/
def patternFlags (s : List Char) : Pattern.Flags := ⟨s.contains 'i', s.contains 'm', s.contains 's'⟩

/-- The flags ask for all matches. -/
def asksForAll (flags : Value) : Except Fault Bool :=
  match flags with
  | .text s => .ok (s.toList.contains 'g')
  | .list items => .ok (items.any fun v => v.key == (Value.text "g").key)
  | .tuple items => .ok (items.any fun v => v.key == (Value.text "g").key)
  | .mapping entries => .ok (Entries.hasKey entries (.text "g"))
  | .bytes _ => .error (Fault.type "a bytes-like object is required, not 'str'")
  | v => .error (Fault.type ("argument of type '" ++ v.fullTypeName ++ "' is not iterable"))

/-- The text with occurrences replaced. -/
def replaced (v old new flags : Value) : Result := do
  let s ← chars v
  let o ← chars old
  let n ← chars new
  if flags.isTruthy then do
    let letters ← chars flags
    let everywhere ← asksForAll flags
    let out ← Pattern.replace (patternFlags letters) everywhere o (groupReferencesFrom 0 n) s
    pure (textValue out)
  else pure (textValue (Text.replaceFirst o n s))

/-- The functions of this file. -/
def replacements : List Builtin :=
  [⟨⟨"replace", ["s", "old", "new"], [.null], false, false⟩, fun _ _ args => match args with
     | [v, old, new, flags] => replaced v old new flags
     | _ => .ok .null⟩]

end Sigil.Library
