/-
# XML markup

A document cut into pieces: characters of the text, start tags and end tags, and what does not
count, such as comments and instructions.  References are turned into the characters that they
stand for.
-/
import Sigil.Fault
import Sigil.Text.Hex
import Sigil.Text.Word

namespace Sigil.Xml

/-- The fault of an ill-formed document. -/
def malformed : Fault := ⟨.xml, none⟩

/-- A piece of a document. -/
inductive Piece where
  /-- Text. -/
  | text (s : List Char)
  /-- Text that is marked as such. -/
  | marked (s : List Char)
  /-- The start of an element, which may be its end as well. -/
  | start (name : List Char) (attributes : List (List Char × List Char)) (empty : Bool)
  /-- The end of an element. -/
  | finish (name : List Char)
  /-- A comment or an instruction. -/
  | ignored
  /-- The declaration of the document type. -/
  | documentType
deriving Repr, DecidableEq

/-- White space. -/
def isSpace (c : Char) : Bool := c == ' ' || c == '\t' || c == '\n' || c == '\r'

/-- The character may stand in a document. -/
def isAllowed (c : Char) : Bool :=
  (isSpace c || 0x20 ≤ c.toNat) && c.toNat != 0xFFFE && c.toNat != 0xFFFF

/-- The character may begin a name. -/
def beginsName (c : Char) : Bool :=
  c.isAlpha || c == '_' || c == ':'
    || (0x80 ≤ c.toNat && c.toNat < 0x10000 && Text.isWord c)

/-- The character may stand in a name. -/
def inName (c : Char) : Bool := beginsName c || c.isDigit || c == '-' || c == '.' || c == '\u00B7'

/-- The text without white space at its start. -/
def skipSpace (s : List Char) : List Char := s.dropWhile isSpace

/-- A name at the start of a text. -/
def name (s : List Char) : Except Fault (List Char × List Char) :=
  match s with
  | c :: rest =>
    if beginsName c then .ok (c :: rest.takeWhile inName, rest.dropWhile inName)
    else .error malformed
  | [] => .error malformed

/-- The text behind a mark that has to stand at its start. -/
def expect (mark s : List Char) : Except Fault (List Char) :=
  if mark.isPrefixOf s then .ok (s.drop mark.length) else .error malformed

/-- The text up to a mark and behind it; all characters before it have to be allowed. -/
def upTo (mark : List Char) : List Char → Except Fault (List Char × List Char)
  | [] => .error malformed
  | c :: rest =>
    if mark.isPrefixOf (c :: rest) then .ok ([], (c :: rest).drop mark.length)
    else if isAllowed c then (upTo mark rest).map fun (s, tail) => (c :: s, tail)
    else .error malformed

/-- The characters with a reference by name. -/
def namedReferences : List (List Char × Char) :=
  [("lt".toList, '<'), ("gt".toList, '>'), ("amp".toList, '&'), ("apos".toList, '\''),
   ("quot".toList, '"')]

/-- The number of a reference behind `#`. -/
def referenceNumber? (s : List Char) : Option Nat :=
  match s with
  | 'x' :: digits => if digits.isEmpty then none else Text.hexToNat? digits
  | digits =>
    if digits.isEmpty || !digits.all Char.isDigit then none
    else some (digits.foldl (fun n c => 10 * n + (c.toNat - 48)) 0)

/-- The character of a reference behind an ampersand. -/
def reference (s : List Char) : Except Fault (Char × List Char) := do
  let (body, rest) ← upTo [';'] s
  match body with
  | '#' :: digits =>
    match referenceNumber? digits with
    | some n =>
      if n.isValidChar && isAllowed (Char.ofNat n) then pure (Char.ofNat n, rest)
      else .error malformed
    | none => .error malformed
  | body =>
    match namedReferences.lookup body with
    | some c => pure (c, rest)
    | none => .error malformed

/-- A character of a value, white space of any kind being a blank. -/
def valueChar (c : Char) : Char := if isSpace c then ' ' else c

/-- The value of an attribute up to its quote, where `skip` characters belong to one already
read. -/
def attributeValue (quote : Char) : Nat → List Char → Except Fault (List Char × List Char)
  | _, [] => .error malformed
  | skip + 1, _ :: rest => attributeValue quote skip rest
  | 0, c :: rest =>
    if c == quote then .ok ([], rest)
    else if c == '<' || !isAllowed c then .error malformed
    else if c == '&' then do
      let (d, tail) ← reference rest
      let (s, tail) ← attributeValue quote (rest.length - tail.length) rest
      pure (d :: s, tail)
    else do
      let skip := if c == '\r' && rest.head? == some '\n' then 1 else 0
      let (s, tail) ← attributeValue quote skip rest
      pure (valueChar c :: s, tail)

/-- The attributes of a start tag up to its end, and whether the element ends as well. -/
def attributes : Nat → List Char →
    Except Fault (List (List Char × List Char) × Bool × List Char)
  | 0, _ => .error malformed
  | fuel + 1, s =>
    match s, skipSpace s with
    | _, '>' :: tail => .ok ([], false, tail)
    | _, '/' :: '>' :: tail => .ok ([], true, tail)
    | c :: _, t =>
      if !isSpace c then .error malformed
      else do
        let (k, rest) ← name t
        let rest ← expect ['='] (skipSpace rest)
        match skipSpace rest with
        | q :: rest =>
          if q == '"' || q == '\'' then do
            let (v, rest) ← attributeValue q 0 rest
            let (more, empty, tail) ← attributes fuel rest
            if more.any (·.1 == k) then .error malformed else pure ((k, v) :: more, empty, tail)
          else .error malformed
        | [] => .error malformed
    | [], _ => .error malformed

/-- A start tag behind its bracket. -/
def startTag (s : List Char) : Except Fault (Piece × List Char) := do
  let (n, rest) ← name s
  let (as, empty, tail) ← attributes (rest.length + 1) rest
  pure (.start n as empty, tail)

/-- An end tag behind its bracket and slash. -/
def endTag (s : List Char) : Except Fault (Piece × List Char) := do
  let (n, rest) ← name s
  let tail ← expect ['>'] (skipSpace rest)
  pure (.finish n, tail)

/-- A comment behind its start: two hyphens have to be its end. -/
def comment (s : List Char) : Except Fault (Piece × List Char) := do
  let (_, rest) ← upTo ['-', '-'] s
  let tail ← expect ['>'] rest
  pure (.ignored, tail)

/-- The name is reserved. -/
def isReserved (n : List Char) : Bool :=
  String.ofList (n.map Char.toLower) == "xml"

/-- An instruction behind its start. -/
def instruction (s : List Char) : Except Fault (Piece × List Char) := do
  let (n, rest) ← name s
  let (body, tail) ← upTo ['?', '>'] rest
  if isReserved n || !(body.isEmpty || body.head?.any isSpace) then .error malformed
  else pure (.ignored, tail)

/-- A declaration of the document type behind its name, up to its end; brackets and quotes may hold
its end. -/
def declarationEnd : Bool → Option Char → List Char → Except Fault (List Char)
  | _, _, [] => .error malformed
  | bracketed, some q, c :: rest => declarationEnd bracketed (if c == q then none else some q) rest
  | bracketed, none, c :: rest =>
    if !isAllowed c then .error malformed
    else if c == '"' || c == '\'' then declarationEnd bracketed (some c) rest
    else if c == '[' && !bracketed then declarationEnd true none rest
    else if c == ']' && bracketed then declarationEnd false none rest
    else if c == '>' && !bracketed then .ok rest
    else declarationEnd bracketed none rest

/-- The declaration of the document type behind its start. -/
def documentType (s : List Char) : Except Fault (Piece × List Char) := do
  let (_, rest) ← name (skipSpace s)
  if s.head?.any isSpace then
    let tail ← declarationEnd false none rest
    pure (.documentType, tail)
  else .error malformed

/-- The characters of a text with single line breaks for those written otherwise. -/
def plainLines : List Char → List Char
  | '\r' :: '\n' :: rest => '\n' :: plainLines rest
  | '\r' :: rest => '\n' :: plainLines rest
  | c :: rest => c :: plainLines rest
  | [] => []

/-- The piece behind an opening bracket. -/
def tagAt (s : List Char) : Except Fault (Piece × List Char) :=
  match s with
  | '/' :: rest => endTag rest
  | '?' :: rest => instruction rest
  | '!' :: '-' :: '-' :: rest => comment rest
  | '!' :: rest =>
    if "[CDATA[".toList.isPrefixOf rest then
      (upTo [']', ']', '>'] (rest.drop 7)).map fun (t, tail) => (.marked (plainLines t), tail)
    else if "DOCTYPE".toList.isPrefixOf rest then documentType (rest.drop 7)
    else .error malformed
  | s => startTag s

/-- The piece at the start of `c :: rest`. -/
def pieceAt (c : Char) (rest : List Char) : Except Fault (Piece × List Char) :=
  if c == '<' then tagAt rest
  else if c == '&' then (reference rest).map fun (d, tail) => (.marked [d], tail)
  else if !isAllowed c || [']', ']', '>'].isPrefixOf (c :: rest) then .error malformed
  else if c == '\r' then
    .ok (.text ['\n'], if rest.head? == some '\n' then rest.drop 1 else rest)
  else .ok (.text [c], rest)

/-- The pieces of a document, where `skip` characters belong to one already read. -/
def piecesFrom : Nat → List Char → Except Fault (List Piece)
  | _, [] => .ok []
  | skip + 1, _ :: rest => piecesFrom skip rest
  | 0, c :: rest => do
    let (p, tail) ← pieceAt c rest
    let more ← piecesFrom (rest.length - tail.length) rest
    pure (p :: more)

/-- The parts of the declaration at the start of a document, in order, with what each may be. -/
def declarationParts : List (List Char × (List Char → Bool)) :=
  let isVersion (s : List Char) : Bool :=
    !s.isEmpty && s.all fun c => c.isAlphanum || c == '_' || c == '.' || c == ':' || c == '-'
  let isEncoding (s : List Char) : Bool :=
    s.head?.any Char.isAlpha && s.all fun c => c.isAlphanum || c == '.' || c == '_' || c == '-'
  let isAnswer (s : List Char) : Bool := s == "yes".toList || s == "no".toList
  [("version".toList, isVersion), ("encoding".toList, isEncoding), ("standalone".toList, isAnswer)]

/-- The parts are among the given ones, in their order. -/
def inOrder : List (List Char × (List Char → Bool)) → List (List Char × List Char) → Bool
  | _, [] => true
  | [], _ :: _ => false
  | (k, fits) :: known, (l, v) :: parts =>
    if k == l then fits v && inOrder known parts else inOrder known ((l, v) :: parts)

/-- The document behind its declaration, if it begins with one. -/
def skipDeclaration (s : List Char) : Except Fault (List Char) :=
  match s with
  | '<' :: '?' :: 'x' :: 'm' :: 'l' :: c :: rest =>
    if !isSpace c then .ok s
    else do
      let (body, tail) ← upTo ['?', '>'] (c :: rest)
      let (parts, closed, behind) ← attributes (body.length + 2) (body ++ ['>'])
      if !closed && behind.isEmpty && (parts.head?.any fun p => p.1 == "version".toList)
          && inOrder declarationParts parts then
        pure tail
      else .error malformed
  | s => .ok s

/-- The pieces of a document; a byte order mark at its start does not count. -/
def pieces (s : List Char) : Except Fault (List Piece) := do
  let s := if s.head? == some '\uFEFF' then s.drop 1 else s
  let s ← skipDeclaration s
  piecesFrom 0 s

end Sigil.Xml
