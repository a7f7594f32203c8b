/-
# Characters in their places

In YAML the line and the column of a character matter as much as the character.  A text is read as a
list of glyphs: its characters with their places, every way to end a line but two made a line feed,
and a mark of the end behind the last one.
-/
import Sigil.Fault

namespace Sigil.Yaml

/-- The fault of an ill-formed document. -/
def malformed : Fault := ⟨.value, none⟩

/-- A character with its place. -/
structure Glyph where
  /-- The character. -/
  char : Char
  /-- The number of characters before it. -/
  index : Nat
  /-- The number of lines before its own. -/
  line : Nat
  /-- The number of characters before it on its line. -/
  column : Nat
deriving Repr, DecidableEq

/-- The mark of the end. -/
def endMark : Char := '\x00'

/-- The mark of the byte order, which takes no column. -/
def orderMark : Char := '\uFEFF'

/-- The character may stand in a document. -/
def isAllowed (c : Char) : Bool :=
  let n := c.toNat
  n == 0x9 || n == 0xA || n == 0xD || (0x20 ≤ n && n ≤ 0x7E) || n == 0x85
    || (0xA0 ≤ n && n ≤ 0xFFFD) || 0x10000 ≤ n

/-- The character separates lines. -/
def isBreak (c : Char) : Bool := c == '\n' || c == '\u2028' || c == '\u2029'

/-- The character separates lines or marks the end. -/
def endsLine (c : Char) : Bool := isBreak c || c == endMark

/-- A blank or a tab. -/
def isBlank (c : Char) : Bool := c == ' ' || c == '\t'

/-- The character separates words or marks the end. -/
def isGap (c : Char) : Bool := isBlank c || endsLine c

/-- The glyphs of a text from a place on. -/
def glyphsFrom (index line column : Nat) : List Char → List Glyph
  | [] => [⟨endMark, index, line, column⟩]
  | '\r' :: '\n' :: rest => ⟨'\n', index, line, column⟩ :: glyphsFrom (index + 2) (line + 1) 0 rest
  | c :: rest =>
    let d := if c == '\r' || c == '\x85' then '\n' else c
    ⟨d, index, line, column⟩ ::
      (if isBreak d then glyphsFrom (index + 1) (line + 1) 0 rest
       else glyphsFrom (index + 1) line (if c == orderMark then column else column + 1) rest)

/-- The glyphs of a text. -/
def glyphs (s : List Char) : List Glyph := glyphsFrom 0 0 0 s

/-- The first character. -/
def peek (gs : List Glyph) : Char := (gs.head?.map (·.char)).getD endMark

/-- The second character. -/
def peekNext (gs : List Glyph) : Char := peek gs.tail

/-- The column of the first character. -/
def columnOf (gs : List Glyph) : Nat := (gs.head?.map (·.column)).getD 0

/-- The characters of glyphs. -/
def chars (gs : List Glyph) : List Char := gs.map (·.char)

/-- The characters at the start for which a test holds, and the glyphs behind them. -/
def span (p : Char → Bool) : List Glyph → List Char × List Glyph
  | [] => ([], [])
  | g :: rest =>
    if p g.char then
      let (cs, tail) := span p rest
      (g.char :: cs, tail)
    else ([], g :: rest)

/-- The break at the start, if one is there, and the glyphs behind it. -/
def takeBreak : List Glyph → List Char × List Glyph
  | [] => ([], [])
  | g :: rest => if isBreak g.char then ([g.char], rest) else ([], g :: rest)

/-- Three equal characters stand alone at the start. -/
def isTriple (c : Char) : List Glyph → Bool
  | g :: g' :: g'' :: rest => g.char == c && g'.char == c && g''.char == c && isGap (peek rest)
  | _ => false

/-- A mark of the start or the end of a document is at the start of a line. -/
def isDocumentMark (gs : List Glyph) : Bool := isTriple '-' gs || isTriple '.' gs

/-- The rest of a line that may hold nothing but a comment, and the break behind it, are passed. -/
def skipLine (gs : List Glyph) : Except Fault (List Glyph) :=
  let rest := (span (· == ' ') gs).2
  let rest := if peek rest == '#' then (span (!endsLine ·) rest).2 else rest
  if endsLine (peek rest) then .ok (takeBreak rest).2 else .error malformed

end Sigil.Yaml
