/-
# The pieces of a YAML document

A document is cut into pieces from its start.  The columns of the collections that are open show
where a deeper one begins and where some end.  A node that may be a key is remembered, on each level
of brackets its own: if a colon follows on the same line, the start of the key is put in before it.
-/
import Sigil.Yaml.Scalar
import Sigil.Yaml.Tag

namespace Sigil.Yaml

/-- A node that may be a key. -/
structure Candidate where
  /-- The number of pieces before it. -/
  number : Nat
  /-- Whether nothing but a key can stand there. -/
  required : Bool
  /-- The number of characters before it. -/
  index : Nat
  /-- Its line. -/
  line : Nat
  /-- Its column. -/
  column : Nat
deriving Repr, DecidableEq

/-- The pieces so far and what decides how the next one is read. -/
structure Scan where
  /-- What is still to be read. -/
  rest : List Glyph
  /-- The pieces so far, the last one first. -/
  lexemes : List Lexeme
  /-- The columns of the open collections by indentation, the innermost first. -/
  indents : List Nat
  /-- The node that may be a key, on the current level of brackets. -/
  candidate : Option Candidate
  /-- The nodes that may be keys, on the outer levels of brackets, the innermost first. -/
  outer : List (Option Candidate)
  /-- Whether a node at this place may be a key. -/
  keyAllowed : Bool

namespace Scan

/-- Nothing is read. -/
def start (text : List Char) : Scan := ⟨glyphs text, [], [], none, [], true⟩

/-- Some brackets are open. -/
def inFlow (st : Scan) : Bool := !st.outer.isEmpty

/-- The column of the next character. -/
def column (st : Scan) : Nat := columnOf st.rest

/-- The least column within the innermost collection by indentation. -/
def innerColumn (st : Scan) : Nat :=
  match st.indents with
  | [] => 0
  | c :: _ => c + 1

/-- A piece is added. -/
def push (st : Scan) (l : Lexeme) : Scan := { st with lexemes := l :: st.lexemes }

/-- Some characters are passed. -/
def advance (st : Scan) (n : Nat) : Scan := { st with rest := st.rest.drop n }

/-- Whether a node at the next place may be a key is set. -/
def allowKey (st : Scan) (allowed : Bool) : Scan := { st with keyAllowed := allowed }

/-- A node that may be a key is given up; one that has to be a key cannot be. -/
def giveUp : Option Candidate → Except Fault (Option Candidate)
  | some c => if c.required then .error malformed else .ok none
  | none => .ok none

/-- A node cannot be a key any more on another line, nor after 1024 characters. -/
def checkCandidate (gs : List Glyph) : Option Candidate → Except Fault (Option Candidate)
  | none => .ok none
  | some c =>
    match gs with
    | g :: _ =>
      if g.line != c.line || 1024 < g.index - c.index then giveUp (some c) else .ok (some c)
    | [] => giveUp (some c)

/-- The nodes that cannot be keys any more are given up. -/
def checkCandidates (st : Scan) : Except Fault Scan := do
  let candidate ← checkCandidate st.rest st.candidate
  let outer ← st.outer.mapM (checkCandidate st.rest)
  pure { st with candidate, outer }

/-- The node that may be a key on the current level is given up. -/
def giveUpCandidate (st : Scan) : Except Fault Scan := do
  let candidate ← giveUp st.candidate
  pure { st with candidate }

/-- The node at this place may be a key, if one is allowed. -/
def saveCandidate (st : Scan) : Except Fault Scan :=
  match st.keyAllowed, st.rest with
  | true, g :: _ => do
    let st ← st.giveUpCandidate
    let required := !st.inFlow && st.indents.head? == some g.column
    pure { st with candidate := some ⟨st.lexemes.length, required, g.index, g.line, g.column⟩ }
  | _, _ => .ok st

/-- The collections that are indented more than a column come to their end. -/
def closeDeeper (column : Nat) : List Nat → List Lexeme → List Nat × List Lexeme
  | c :: outer, ls =>
    if column < c then closeDeeper column outer (.blockEnd :: ls) else (c :: outer, ls)
  | [], ls => ([], ls)

/-- The collections that are indented more than a column come to their end, outside of brackets. -/
def unwind (st : Scan) (column : Nat) : Scan :=
  if st.inFlow then st
  else
    let (indents, lexemes) := closeDeeper column st.indents st.lexemes
    { st with indents, lexemes }

/-- All collections by indentation come to their end, outside of brackets. -/
def unwindAll (st : Scan) : Scan :=
  if st.inFlow then st
  else { st with indents := [], lexemes := st.indents.map (fun _ => .blockEnd) ++ st.lexemes }

/-- A collection begins at a column, if it is deeper than the innermost one. -/
def opensAt (st : Scan) (column : Nat) : Bool := st.indents.head?.all (· < column)

/-- A collection begins at this place, outside of brackets, if the place is deeper than the
innermost one. -/
def openBlock (st : Scan) (l : Lexeme) : Except Fault Scan :=
  if st.inFlow then .ok st
  else if !st.keyAllowed then .error malformed
  else if st.opensAt st.column then .ok ({ st with indents := st.column :: st.indents }.push l)
  else .ok st

/-- A mark of a document, which ends all collections. -/
def documentMark (st : Scan) (l : Lexeme) : Except Fault Scan := do
  let st ← st.unwindAll.giveUpCandidate
  pure (((st.allowKey false).advance 3).push l)

/-- A directive. -/
def readDirective (st : Scan) : Except Fault Scan := do
  let st ← st.unwindAll.giveUpCandidate
  let (d, rest) ← directive st.rest.tail
  pure ({ st.allowKey false with rest }.push d)

/-- A bracket or brace opens. -/
def openFlow (st : Scan) (l : Lexeme) : Except Fault Scan := do
  let st ← st.saveCandidate
  let st := { st with outer := st.candidate :: st.outer, candidate := none }
  pure (((st.allowKey true).advance 1).push l)

/-- A bracket or brace closes. -/
def closeFlow (st : Scan) (l : Lexeme) : Except Fault Scan := do
  let st ← st.giveUpCandidate
  match st.outer with
  | [] => .error malformed
  | c :: outer =>
    let st := { st with outer, candidate := c }
    pure (((st.allowKey false).advance 1).push l)

/-- A comma between items. -/
def flowEntry (st : Scan) : Except Fault Scan := do
  let st ← (st.allowKey true).giveUpCandidate
  pure ((st.advance 1).push .flowEntry)

/-- The mark of an item. -/
def blockEntry (st : Scan) : Except Fault Scan := do
  let st ← st.openBlock .blockSequence
  let st ← (st.allowKey true).giveUpCandidate
  pure ((st.advance 1).push .blockEntry)

/-- The mark of a key. -/
def key (st : Scan) : Except Fault Scan := do
  let st ← st.openBlock .blockMapping
  let st ← (st.allowKey !st.inFlow).giveUpCandidate
  pure ((st.advance 1).push .key)

/-- The start of a key is put in before the node that turns out to be one, and that of a mapping
before it, if one begins there. -/
def insertKey (st : Scan) (c : Candidate) : Scan :=
  let opens := !st.inFlow && st.opensAt c.column
  let behind := st.lexemes.length - c.number
  let marks : List Lexeme := if opens then [.key, .blockMapping] else [.key]
  { st with
    lexemes := st.lexemes.take behind ++ marks ++ st.lexemes.drop behind
    indents := if opens then c.column :: st.indents else st.indents
    candidate := none }

/-- The colon before a value. -/
def value (st : Scan) : Except Fault Scan :=
  match st.candidate with
  | some c => .ok ((((st.insertKey c).allowKey false).advance 1).push .value)
  | none => do
    let st ← st.openBlock .blockMapping
    pure (((st.allowKey !st.inFlow).advance 1).push .value)

/-- A piece that is a node or stands before one on the same line. -/
def nodePiece (st : Scan) (read : List Glyph → Except Fault (Lexeme × List Glyph)) :
    Except Fault Scan := do
  let st ← st.saveCandidate
  let (l, rest) ← read st.rest
  pure ({ st.allowKey false with rest }.push l)

/-- A scalar by indentation. -/
def readBlock (st : Scan) (folded : Bool) : Except Fault Scan := do
  let st ← (st.allowKey true).giveUpCandidate
  let (text, rest) ← blockScalar folded st.innerColumn st.rest.tail
  pure ({ st with rest }.push (.scalar false text))

/-- The name of a node behind its mark, which tells what the name is for. -/
def readName (use : List Char → Lexeme) (gs : List Glyph) : Except Fault (Lexeme × List Glyph) :=
  (nodeName gs.tail).map fun (n, rest) => (use n, rest)

/-- A scalar in quotes. -/
def readQuoted (quote : Char) (gs : List Glyph) : Except Fault (Lexeme × List Glyph) := do
  let (text, rest) ← quotedScalar quote (gs.length + 1) gs.tail
  pure (.scalar false text, rest)

/-- A plain scalar. -/
def readPlain (st : Scan) : Except Fault Scan := do
  let st ← st.saveCandidate
  let p := plainScalar st.inFlow st.innerColumn (st.rest.length + 1) false st.rest
  pure ({ st.allowKey p.broken with rest := p.rest }.push (.scalar true p.text))

/-- A plain scalar may begin with a character, given the one behind it. -/
def beginsPlain (flow : Bool) (c next : Char) : Bool :=
  !(isGap c || "-?:,[]\x7b\x7d#&*!|>'\"%@\x60".toList.contains c)
    || (!isGap next && (c == '-' || (!flow && (c == '?' || c == ':'))))

/-- The next piece is read. -/
def step (st : Scan) : Except Fault Scan :=
  let c := peek st.rest
  let next := peekNext st.rest
  let atStart := st.column == 0
  let alone := st.inFlow || isGap next
  if c == '%' && atStart then st.readDirective
  else if atStart && isTriple '-' st.rest then st.documentMark .documentStart
  else if atStart && isTriple '.' st.rest then st.documentMark .documentEnd
  else if c == '[' then st.openFlow .flowSequence
  else if c == '\x7b' then st.openFlow .flowMapping
  else if c == ']' then st.closeFlow .flowSequenceEnd
  else if c == '\x7d' then st.closeFlow .flowMappingEnd
  else if c == ',' then st.flowEntry
  else if c == '-' && isGap next then st.blockEntry
  else if c == '?' && alone then st.key
  else if c == ':' && alone then st.value
  else if c == '*' then st.nodePiece (readName .reference)
  else if c == '&' then st.nodePiece (readName .anchor)
  else if c == '!' then st.nodePiece tag
  else if c == '|' && !st.inFlow then st.readBlock false
  else if c == '>' && !st.inFlow then st.readBlock true
  else if c == '\'' || c == '"' then st.nodePiece (readQuoted c)
  else if beginsPlain st.inFlow c next then st.readPlain
  else .error malformed

/-- Blanks, comments and line breaks are passed; the result tells whether there was a line break. -/
def skipSpace (comment : Bool) : List Glyph → List Glyph × Bool
  | [] => ([], false)
  | g :: rest =>
    if isBreak g.char then ((skipSpace false rest).1, true)
    else if g.char != endMark && (comment || g.char == ' ') then skipSpace comment rest
    else if g.char == '#' then skipSpace true rest
    else (g :: rest, false)

/-- What is between two pieces is passed.  A node at the start of a line may be a key. -/
def skip (st : Scan) : Scan :=
  let gs := match st.rest with
    | g :: rest => if g.index == 0 && g.char == orderMark then rest else g :: rest
    | [] => []
  let (rest, broken) := skipSpace false gs
  { st with rest, keyAllowed := st.keyAllowed || (broken && !st.inFlow) }

/-- The pieces up to the end. -/
def run : Nat → Scan → Except Fault (List Lexeme)
  | 0, _ => .error malformed
  | fuel + 1, st => do
    let st ← st.skip.checkCandidates
    let st := st.unwind st.column
    if peek st.rest == endMark then
      let st ← st.unwindAll.giveUpCandidate
      pure st.lexemes.reverse
    else
      let st ← st.step
      run fuel st

end Scan

/-- The pieces of a document. -/
def lexemes (text : List Char) : Except Fault (List Lexeme) :=
  if text.all isAllowed then Scan.run (text.length + 1) (Scan.start text) else .error malformed

end Sigil.Yaml
