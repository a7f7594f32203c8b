/-
# Scalars of YAML

The text of scalars: plain ones, which end where something else can begin, quoted ones, and those
that are written by indentation.  Within plain and quoted scalars a single line break counts as a
blank, and of several the first does not count.
-/
import Sigil.Text.Hex
import Sigil.Yaml.Glyph

namespace Sigil.Yaml

/-- What a line break and the breaks behind it stand for. -/
def foldBreaks (first : Char) (more : List Char) : List Char :=
  if first != '\n' then first :: more else if more.isEmpty then [' '] else more

/-! ### Plain scalars -/

/-- A plain scalar ends before a character, given the one behind it. -/
def endsPlain (flow : Bool) (c next : Char) : Bool :=
  isGap c || (c == ':' && (isGap next || (flow && ",[]\x7b\x7d".toList.contains next)))
    || (flow && ",?[]\x7b\x7d".toList.contains c)

/-- The characters up to the next gap or the end of a plain scalar. -/
def plainWord (flow : Bool) : List Glyph → List Char × List Glyph
  | [] => ([], [])
  | g :: rest =>
    if endsPlain flow g.char (peek rest) then ([], g :: rest)
    else
      let (cs, tail) := plainWord flow rest
      (g.char :: cs, tail)

/-- The breaks of empty lines; none if a mark of a document follows a break. -/
def plainBreaks : List Glyph → Option (List Char) × List Glyph
  | [] => (some [], [])
  | g :: rest =>
    if g.char == ' ' then plainBreaks rest
    else if isBreak g.char then
      if isDocumentMark rest then (none, rest)
      else
        let (more, tail) := plainBreaks rest
        (more.map (g.char :: ·), tail)
    else (some [], g :: rest)

/-- What is between two words of a plain scalar. -/
structure PlainGap where
  /-- The text that the gap stands for; empty if the scalar ends here. -/
  text : List Char
  /-- Whether a line ends within the gap. -/
  endsLine : Bool
  /-- What follows. -/
  rest : List Glyph

/-- The gap at the start. -/
def plainGap (gs : List Glyph) : PlainGap :=
  let (blanks, rest) := span (· == ' ') gs
  match takeBreak rest with
  | (first :: _, rest) =>
    if isDocumentMark rest then ⟨[], true, rest⟩
    else match plainBreaks rest with
      | (none, rest) => ⟨[], true, rest⟩
      | (some more, rest) => ⟨foldBreaks first more, true, rest⟩
  | ([], rest) => ⟨blanks, false, rest⟩

/-- A plain scalar and what follows it; `broken` tells whether a line ends right before what
follows. -/
structure PlainScalar where
  /-- The text. -/
  text : List Char
  /-- Whether a line ends behind the scalar. -/
  broken : Bool
  /-- What follows. -/
  rest : List Glyph

/-- The plain scalar at the start; in blocks its further lines are indented by `indent` at least. -/
def plainScalar (flow : Bool) (indent : Nat) : Nat → Bool → List Glyph → PlainScalar
  | 0, broken, gs => ⟨[], broken, gs⟩
  | fuel + 1, broken, gs =>
    let (word, rest) := plainWord flow gs
    if word.isEmpty then ⟨[], broken, gs⟩
    else
      let gap := plainGap rest
      if gap.text.isEmpty || peek gap.rest == '#' || (!flow && columnOf gap.rest < indent) then
        ⟨word, gap.endsLine, gap.rest⟩
      else
        let more := plainScalar flow indent fuel gap.endsLine gap.rest
        if more.text.isEmpty then ⟨word, more.broken, more.rest⟩
        else { more with text := word ++ gap.text ++ more.text }

/-! ### Quoted scalars -/

/-- The breaks of empty lines in a quoted scalar; no line starts with a mark of a document. -/
def quotedBreaks (atStart : Bool) : List Glyph → Except Fault (List Char × List Glyph)
  | [] => .ok ([], [])
  | g :: rest =>
    if atStart && isDocumentMark (g :: rest) then .error malformed
    else if isBlank g.char then quotedBreaks false rest
    else if isBreak g.char then do
      let (more, tail) ← quotedBreaks true rest
      pure (g.char :: more, tail)
    else .ok ([], g :: rest)

/-- The gap between two words of a quoted scalar. -/
def quotedGap (gs : List Glyph) : Except Fault (List Char × List Glyph) :=
  let (blanks, rest) := span isBlank gs
  match takeBreak rest with
  | (first :: _, rest) => do
    let (more, tail) ← quotedBreaks true rest
    pure (foldBreaks first more, tail)
  | ([], rest) => .ok (blanks, rest)

/-- The characters that a letter behind a backslash stands for. -/
def escapeLetter? : Char → Option Char
  | '0' => some '\x00'
  | 'a' => some '\x07'
  | 'b' => some '\x08'
  | 't' => some '\t'
  | '\t' => some '\t'
  | 'n' => some '\n'
  | 'v' => some '\x0b'
  | 'f' => some '\x0c'
  | 'r' => some '\r'
  | 'e' => some '\x1b'
  | ' ' => some ' '
  | '"' => some '"'
  | '\\' => some '\\'
  | '/' => some '/'
  | 'N' => some '\x85'
  | '_' => some '\u00a0'
  | 'L' => some '\u2028'
  | 'P' => some '\u2029'
  | _ => none

/-- The number of hexadecimal digits that follow a letter behind a backslash. -/
def escapeWidth? : Char → Option Nat
  | 'x' => some 2
  | 'u' => some 4
  | 'U' => some 8
  | _ => none

/-- A character given by its number in hexadecimal digits. -/
def numberedChar (width : Nat) (gs : List Glyph) : Except Fault (List Char × List Glyph) :=
  let digits := chars (gs.take width)
  match Text.hexToNat? digits with
  | some n =>
    if digits.length != width then .error malformed
    else if 0x110000 ≤ n then .error (Fault.value "chr() arg not in range(0x110000)")
    else if n.isValidChar then .ok ([Char.ofNat n], gs.drop width) else .error malformed
  | none => .error malformed

/-- What stands behind a backslash. -/
def quotedEscape : List Glyph → Except Fault (List Char × List Glyph)
  | [] => .error malformed
  | g :: rest =>
    match escapeLetter? g.char, escapeWidth? g.char with
    | some c, _ => .ok ([c], rest)
    | none, some width => numberedChar width rest
    | none, none => if isBreak g.char then quotedBreaks true rest else .error malformed

/-- The text of a quoted scalar up to its end. -/
def quotedScalar (quote : Char) : Nat → List Glyph → Except Fault (List Char × List Glyph)
  | 0, _ => .error malformed
  | _, [] => .error malformed
  | fuel + 1, g :: rest =>
    if g.char == endMark then .error malformed
    else if g.char == quote then
      if quote == '\'' && peek rest == quote then do
        let (more, tail) ← quotedScalar quote fuel rest.tail
        pure (quote :: more, tail)
      else .ok ([], rest)
    else do
      let (text, rest) ←
        if isGap g.char then quotedGap (g :: rest)
        else if quote == '"' && g.char == '\\' then quotedEscape rest
        else .ok ([g.char], rest)
      let (more, tail) ← quotedScalar quote fuel rest
      pure (text ++ more, tail)

/-! ### Scalars by indentation -/

/-- What becomes of the breaks at the end of a block. -/
inductive Chomping where
  /-- The first is kept. -/
  | clip
  /-- None is kept. -/
  | strip
  /-- All are kept. -/
  | keep
deriving Repr, DecidableEq

/-- The mark of chomping at the start. -/
def chomping (gs : List Glyph) : Option (Chomping × List Glyph) :=
  match peek gs with
  | '+' => some (.keep, gs.tail)
  | '-' => some (.strip, gs.tail)
  | _ => none

/-- The depth of indentation at the start, a digit other than zero. -/
def indentDigit (gs : List Glyph) : Except Fault (Option Nat × List Glyph) :=
  let c := peek gs
  if c == '0' then .error malformed
  else if c.isDigit then .ok (some (c.toNat - 48), gs.tail)
  else .ok (none, gs)

/-- The marks behind the start of a block, in either order. -/
def blockHeader (gs : List Glyph) : Except Fault (Chomping × Option Nat × List Glyph) :=
  match chomping gs with
  | some (c, rest) => do
    let (depth, rest) ← indentDigit rest
    pure (c, depth, rest)
  | none => do
    let (depth, rest) ← indentDigit gs
    match depth, chomping rest with
    | some _, some (c, rest) => pure (c, depth, rest)
    | _, _ => pure (.clip, depth, rest)

/-- The breaks before the first line of a block, and the greatest indentation before it. -/
def leadingBreaks : List Glyph → List Char × Nat × List Glyph
  | [] => ([], 0, [])
  | g :: rest =>
    if g.char == ' ' then
      let (breaks, depth, tail) := leadingBreaks rest
      (breaks, max depth (g.column + 1), tail)
    else if isBreak g.char then
      let (breaks, depth, tail) := leadingBreaks rest
      (g.char :: breaks, depth, tail)
    else ([], 0, g :: rest)

/-- The breaks of empty lines between the lines of a block, and its indentation on the next one. -/
def blockBreaks (indent : Nat) : List Glyph → List Char × List Glyph
  | [] => ([], [])
  | g :: rest =>
    if g.char == ' ' && g.column < indent then blockBreaks indent rest
    else if isBreak g.char then
      let (breaks, tail) := blockBreaks indent rest
      (g.char :: breaks, tail)
    else ([], g :: rest)

/-- The lines of a block. -/
structure BlockText where
  /-- The text up to the end of the last line. -/
  text : List Char
  /-- The break behind the last line. -/
  lastBreak : List Char
  /-- The breaks of empty lines at the end. -/
  breaks : List Char
  /-- What follows. -/
  rest : List Glyph

/-- A line of a block is at the start. -/
def isInBlock (indent : Nat) (gs : List Glyph) : Bool := columnOf gs == indent && peek gs != endMark

/-- What is between two lines of a block, apart from the breaks of empty lines. -/
def blockGap (folded : Bool) (line lastBreak breaks : List Char) (next : Char) : List Char :=
  if folded && lastBreak == ['\n'] && !(line.head?.any isBlank) && !isBlank next then
    if breaks.isEmpty then [' '] else []
  else lastBreak

/-- The lines of a block after breaks of empty lines. -/
def blockLines (folded : Bool) (indent : Nat) : Nat → List Char → List Glyph → BlockText
  | 0, breaks, gs => ⟨[], [], breaks, gs⟩
  | fuel + 1, breaks, gs =>
    if isInBlock indent gs then
      let (line, rest) := span (!endsLine ·) gs
      let (lastBreak, rest) := takeBreak rest
      let (inner, rest) := blockBreaks indent rest
      if isInBlock indent rest then
        let more := blockLines folded indent fuel inner rest
        let gap := blockGap folded line lastBreak inner (peek rest)
        { more with text := breaks ++ line ++ gap ++ more.text }
      else ⟨breaks ++ line, lastBreak, inner, rest⟩
    else ⟨[], [], breaks, gs⟩

/-- The text of a block with what chomping leaves of its end. -/
def BlockText.chomp (b : BlockText) : Chomping → List Char
  | .clip => b.text ++ b.lastBreak
  | .strip => b.text
  | .keep => b.text ++ b.lastBreak ++ b.breaks

/-- The scalar by indentation behind its first mark; its lines are indented by `least` at least. -/
def blockScalar (folded : Bool) (least : Nat) (gs : List Glyph) :
    Except Fault (List Char × List Glyph) := do
  let (chomp, depth, rest) ← blockHeader gs
  if !isGap (peek rest) || peek rest == '\t' then .error malformed
  let rest ← skipLine rest
  let least := max least 1
  let (breaks, indent, rest) :=
    match depth with
    | some d =>
      let indent := least + d - 1
      let (breaks, rest) := blockBreaks indent rest
      (breaks, indent, rest)
    | none =>
      let (breaks, depth, rest) := leadingBreaks rest
      (breaks, max least depth, rest)
  let b := blockLines folded indent (rest.length + 1) breaks rest
  pure (b.chomp chomp, b.rest)

end Sigil.Yaml
