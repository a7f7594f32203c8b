/-
# Styles of YAML scalars

Which ways of writing a text as a scalar keep it as it is: plain, in single quotes, in double quotes
or by indentation.  Only printable ASCII is written as it stands; with any other character but the
line feed, double quotes and their escapes are needed.
-/
import Sigil.Text.Hex
import Sigil.Text.Search
import Sigil.Yaml.Glyph

namespace Sigil.Yaml

/-- The character is written as it stands in every style. -/
def isOrdinary (c : Char) : Bool := ' ' ≤ c && c ≤ '~'

/-- The text has two characters in a row for which the tests hold. -/
def hasPair (p q : Char → Bool) : List Char → Bool
  | c :: d :: rest => (p c && q d) || hasPair p q (d :: rest)
  | _ => false

/-- The text has more than one line. -/
def isMultiline (s : List Char) : Bool := s.any isBreak

/-- The text can only be written with escapes. -/
def needsEscapes (s : List Char) : Bool :=
  s.any (fun c => !(isOrdinary c || c == '\n')) || hasPair (· == ' ') isBreak s

/-- The text, behind its first character, has a mark that ends or splits a plain scalar. -/
def hasInnerMark (s : List Char) : Bool :=
  hasPair isGap (· == '#') s || hasPair (· == ':') isGap s.tail || (s.tail.getLast? == some ':')

/-- The text begins with what begins something else than a plain scalar. -/
def hasOuterMark (s : List Char) : Bool :=
  "---".toList.isPrefixOf s || "...".toList.isPrefixOf s ||
    match s with
    | c :: rest => "#,[]\x7b\x7d&*!|>'\"%@\x60".toList.contains c
        || ("?:-".toList.contains c && rest.head?.all isGap)
    | [] => false

/-- The text can be a plain scalar. -/
def allowsPlain (s : List Char) : Bool :=
  !(needsEscapes s || isMultiline s || s.head? == some ' ' || s.getLast? == some ' '
    || hasOuterMark s || hasInnerMark s)

/-- The text can be written in single quotes. -/
def allowsSingle (s : List Char) : Bool := !(needsEscapes s || hasPair isBreak (· == ' ') s)

/-- The text can be written by indentation. -/
def allowsBlock (s : List Char) : Bool :=
  !(s.isEmpty || needsEscapes s || s.getLast? == some ' ')

/-- The ways of writing a scalar. -/
inductive Style where
  /-- As it stands. -/
  | plain
  /-- In single quotes. -/
  | single
  /-- In double quotes. -/
  | double
  /-- By indentation. -/
  | block
deriving Repr, DecidableEq

/-- The style of a scalar: as it stands if `bare`, that is if it will be read as what it is, and by
indentation if that is `preferred`.  A key that is not marked as such stands on one line. -/
def Style.choose (bare preferred isKey : Bool) (s : List Char) : Style :=
  let oneLine := !(isKey && isMultiline s)
  if preferred then if !isKey && allowsBlock s then .block else .double
  else if bare && allowsPlain s && oneLine && !(isKey && s.isEmpty) then .plain
  else if allowsSingle s && oneLine then .single
  else .double

/-- The greatest width of a line, where it can be kept. -/
def lineWidth : Nat := 80

/-- The start of a new line. -/
def newLine (indent : Nat) : List Char := '\n' :: List.replicate indent ' '

/-- A piece of a scalar and the column behind it. -/
abbrev Piece := List Char × Nat

/-- A piece behind a column. -/
def piece (column : Nat) (s : List Char) : Piece := (s, column + s.length)

/-- Runs of blanks, of breaks and of other characters. -/
def runs (s : List Char) : List (List Char) :=
  s.splitBy fun c d => (c == ' ') == (d == ' ') && isBreak c == isBreak d

/-- A run of a scalar that is plain or in single quotes.  A single blank within the text becomes a
line break behind the width of a line; breaks are doubled once. -/
def writeRun (fold : Bool) (indent column : Nat) (inner : Bool) (run : List Char) : Piece :=
  match run with
  | '\n' :: _ => ('\n' :: run ++ List.replicate indent ' ', indent)
  | [' '] =>
    if fold && inner && lineWidth < column then (newLine indent, indent) else piece column run
  | _ => piece column run

/-- The runs of a scalar, behind a column. -/
def writeRuns (fold : Bool) (indent column : Nat) (first : Bool) : List (List Char) → Piece
  | [] => ([], column)
  | run :: rest =>
    let (s, column) := writeRun fold indent column (!first && !rest.isEmpty) run
    let (more, column) := writeRuns fold indent column false rest
    (s ++ more, column)

/-- The text in single quotes, where a quote is written twice. -/
def doubleQuotes (s : List Char) : List Char := s.flatMap fun c => if c == '\'' then [c, c] else [c]

/-- The letter behind a backslash that a character is written with. -/
def escapeLetterOf? : Char → Option Char
  | '\x00' => some '0'
  | '\x07' => some 'a'
  | '\x08' => some 'b'
  | '\t' => some 't'
  | '\n' => some 'n'
  | '\x0b' => some 'v'
  | '\x0c' => some 'f'
  | '\r' => some 'r'
  | '\x1b' => some 'e'
  | '"' => some '"'
  | '\\' => some '\\'
  | '\x85' => some 'N'
  | '\u00a0' => some '_'
  | '\u2028' => some 'L'
  | '\u2029' => some 'P'
  | _ => none

/-- A hexadecimal number in capitals. -/
def capitalHex (width n : Nat) : List Char := (Text.hexPadded width n).map Char.toUpper

/-- A character as it is written in double quotes. -/
def escapeChar (c : Char) : List Char :=
  match escapeLetterOf? c with
  | some letter => ['\\', letter]
  | none =>
    if isOrdinary c then [c]
    else if c.toNat ≤ 0xFF then '\\' :: 'x' :: capitalHex 2 c.toNat
    else if c.toNat ≤ 0xFFFF then '\\' :: 'u' :: capitalHex 4 c.toNat
    else '\\' :: 'U' :: capitalHex 8 c.toNat

/-- A line break within double quotes; a blank that follows is marked as part of the text. -/
def escapedBreak (indent : Nat) (next : Option Char) : List Char :=
  '\\' :: newLine indent ++ (if next == some ' ' then ['\\'] else [])

/-- The column behind a line break within double quotes. -/
def escapedBreakColumn (indent : Nat) (next : Option Char) : Nat :=
  if next == some ' ' then indent + 1 else indent

/-- The characters of a scalar in double quotes, behind a column.  Behind the width of a line there
is a break before a blank, and before and behind a character that is written as an escape. -/
def writeEscaped (fold : Bool) (indent column : Nat) (first afterEscape : Bool) :
    List Char → Piece
  | [] => ([], column)
  | c :: rest =>
    let written := escapeChar c
    let inner := fold && !first && !rest.isEmpty
    if written == [c] then
      if inner && (c == ' ' || afterEscape) && lineWidth < column then
        let behind := escapedBreakColumn indent (some c) + 1
        let (more, last) := writeEscaped fold indent behind false false rest
        (escapedBreak indent (some c) ++ c :: more, last)
      else
        let (more, last) := writeEscaped fold indent (column + 1) false false rest
        (c :: more, last)
    else
      let behind := column + written.length
      if inner && lineWidth + 1 < behind then
        let start := escapedBreakColumn indent rest.head?
        let (more, last) := writeEscaped fold indent start false true rest
        (written ++ escapedBreak indent rest.head? ++ more, last)
      else
        let (more, last) := writeEscaped fold indent behind false true rest
        (written ++ more, last)

/-- A scalar behind a column; its further lines are indented, and they are begun only if `fold`. -/
def Style.write (fold : Bool) (indent column : Nat) (s : List Char) : Style → Piece
  | .plain => writeRuns fold indent column true (runs s)
  | .single =>
    let (body, column) := writeRuns fold indent (column + 1) true ((runs s).map doubleQuotes)
    ('\'' :: body ++ ['\''], column + 1)
  | .double =>
    let (body, column) := writeEscaped fold indent (column + 1) true false s
    ('"' :: body ++ ['"'], column + 1)
  | .block =>
    let lines := Text.splitOnChar '\n' s.dropLast
    ('|' :: lines.flatMap (fun line => newLine indent ++ line) ++ ['\n'], 0)

end Sigil.Yaml
