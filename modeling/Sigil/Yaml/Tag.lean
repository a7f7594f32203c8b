/-
# Names, tags and directives of YAML

What stands before a node or a document without being a part of it: the names that nodes are
referred to with, tags, which are written in full or behind a handle, and directives.
-/
import Sigil.Bytes.Utf8
import Sigil.Text.Hex
import Sigil.Yaml.Lexeme

namespace Sigil.Yaml

/-- The character may stand in a name. -/
def inName (c : Char) : Bool := c.isAlphanum || c == '-' || c == '_'

/-- A name at the start, which must not be empty. -/
def name (gs : List Glyph) : Except Fault (List Char × List Glyph) :=
  match span inName gs with
  | ([], _) => .error malformed
  | found => .ok found

/-- The name of a node at the start. -/
def nodeName (gs : List Glyph) : Except Fault (List Char × List Glyph) := do
  let (n, rest) ← name gs
  let c := peek rest
  if isGap c || "?:,]\x7d%@\x60".toList.contains c then pure (n, rest) else .error malformed

/-- The character separates words or marks the end, and is no tab. -/
def isPlainGap (c : Char) : Bool := isGap c && c != '\t'

/-- The character may stand in a tag. -/
def inTag (c : Char) : Bool := c.isAlphanum || "-;/?:@&=+$,_.!~*'()[]".toList.contains c

/-- The bytes that are written as percent signs with two hexadecimal digits at the start. -/
def escapedBytes : Nat → List Glyph → Except Fault (List UInt8 × List Glyph)
  | 0, gs => .ok ([], gs)
  | fuel + 1, gs =>
    if peek gs != '%' then .ok ([], gs)
    else
      let digits := chars (gs.tail.take 2)
      match Text.hexToNat? digits with
      | some n =>
        if digits.length != 2 then .error malformed
        else do
          let (more, rest) ← escapedBytes fuel (gs.drop 3)
          pure (n.toUInt8 :: more, rest)
      | none => .error malformed

/-- The characters of a tag at the start. -/
def tagChars : Nat → List Glyph → Except Fault (List Char × List Glyph)
  | 0, gs => .ok ([], gs)
  | fuel + 1, gs =>
    if peek gs == '%' then
      match escapedBytes fuel gs with
      | .ok (bytes, rest) =>
        match Bytes.decodeStrict bytes with
        | .ok text => do
          let (more, rest) ← tagChars fuel rest
          pure (text ++ more, rest)
        | .error _ => .error malformed
      | .error e => .error e
    else match span inTag gs with
      | ([], _) => .ok ([], gs)
      | (text, rest) => do
        let (more, rest) ← tagChars fuel rest
        pure (text ++ more, rest)

/-- The characters of a tag at the start, of which there is at least one. -/
def tagText (gs : List Glyph) : Except Fault (List Char × List Glyph) := do
  let (text, rest) ← tagChars (gs.length + 1) gs
  if rest.length == gs.length then .error malformed else pure (text, rest)

/-- The handle of tags at the start: an exclamation mark, or a name between two of them. -/
def tagHandle (gs : List Glyph) : Except Fault (List Char × List Glyph) :=
  if peek gs != '!' then .error malformed
  else if peekNext gs == ' ' then .ok (['!'], gs.tail)
  else
    let (n, rest) := span inName gs.tail
    if peek rest == '!' then .ok ('!' :: n ++ ['!'], rest.tail) else .error malformed

/-- The tag of a node, from its exclamation mark on. -/
def tag (gs : List Glyph) : Except Fault (Lexeme × List Glyph) := do
  let c := peekNext gs
  let (t, rest) ←
    if c == '<' then do
      let (text, rest) ← tagText (gs.drop 2)
      if peek rest == '>' then pure (Lexeme.tag none text, rest.tail) else .error malformed
    else if isGap c then pure (Lexeme.tag none ['!'], gs.tail)
    else do
      let inner := (span (!isPlainGap ·) gs.tail).1
      let (handle, rest) ← if inner.contains '!' then tagHandle gs else .ok (['!'], gs.tail)
      let (text, rest) ← tagText rest
      pure (Lexeme.tag (some handle) text, rest)
  if isPlainGap (peek rest) then pure (t, rest) else .error malformed

/-- The number at the start. -/
def versionNumber (gs : List Glyph) : Except Fault (Nat × List Glyph) :=
  match span Char.isDigit gs with
  | ([], _) => .error malformed
  | (digits, rest) => .ok (digits.foldl (fun n c => 10 * n + (c.toNat - 48)) 0, rest)

/-- The glyphs without blanks at their start. -/
def skipBlanks (gs : List Glyph) : List Glyph := (span (· == ' ') gs).2

/-- A version at the start. -/
def version (gs : List Glyph) : Except Fault (Lexeme × List Glyph) := do
  let (major, rest) ← versionNumber (skipBlanks gs)
  if peek rest != '.' then .error malformed
  let (_, rest) ← versionNumber rest.tail
  if isPlainGap (peek rest) then pure (.version major, rest) else .error malformed

/-- A handle and its meaning at the start. -/
def handle (gs : List Glyph) : Except Fault (Lexeme × List Glyph) := do
  let (h, rest) ← tagHandle (skipBlanks gs)
  if peek rest != ' ' then .error malformed
  let (meaning, rest) ← tagText (skipBlanks rest)
  if isPlainGap (peek rest) then pure (.handle h meaning, rest) else .error malformed

/-- A directive behind its percent sign, with the rest of its line. -/
def directive (gs : List Glyph) : Except Fault (Lexeme × List Glyph) := do
  let (n, rest) ← name gs
  if !isPlainGap (peek rest) then .error malformed
  let (d, rest) ←
    if n == "YAML".toList then version rest
    else if n == "TAG".toList then handle rest
    else .ok (.directive, (span (!endsLine ·) rest).2)
  let rest ← skipLine rest
  pure (d, rest)

end Sigil.Yaml
