/-
# The nodes of a YAML document

A document is a tree of scalars, sequences and mappings, each of a kind.  It is built from the
pieces of the document: a piece that refers to a node is replaced by the node, which must be
complete by then.  In block collections an item or a value may be missing, and stands for the
absent value.
-/
import Sigil.Yaml.Kind
import Sigil.Yaml.Scan

namespace Sigil.Yaml

/-- A node. -/
inductive Node where
  /-- A scalar. -/
  | scalar (kind : Kind) (text : List Char)
  /-- A sequence. -/
  | sequence (kind : Kind) (items : List Node)
  /-- A mapping. -/
  | mapping (kind : Kind) (entries : List (Node × Node))

instance : Inhabited Node := ⟨.scalar .null []⟩

namespace Node

/-- The node of what is missing. -/
def missing : Node := .scalar .null []

/-- The kind of a node. -/
def kind : Node → Kind
  | scalar k _ => k
  | sequence k _ => k
  | mapping k _ => k

end Node

/-- What is still to be read of a document, and what is known from what was. -/
structure Reading where
  /-- The pieces that are still to be read. -/
  rest : List Lexeme
  /-- The names of nodes; a node that is not complete has its name already. -/
  anchors : List (List Char × Option Node)
  /-- The meanings of the handles of tags. -/
  handles : List (List Char × List Char)

namespace Reading

/-- The handles that need no directive. -/
def knownHandles : List (List Char × List Char) :=
  [(['!'], ['!']), (['!', '!'], Kind.tagStart.toList)]

/-- The pieces behind the first one. -/
def tail (r : Reading) : Reading := { r with rest := r.rest.tail }

/-- The node of a name. -/
def anchored (r : Reading) (name : List Char) : Except Fault Node :=
  match r.anchors.lookup name with
  | some (some n) => .ok n
  | _ => .error malformed

/-- The node that begins here has a name, which must be new. -/
def announce (r : Reading) : Option (List Char) → Except Fault Reading
  | none => .ok r
  | some name =>
    if (r.anchors.lookup name).isSome then .error malformed
    else .ok { r with anchors := (name, none) :: r.anchors }

/-- The node of a name is complete. -/
def settle (r : Reading) (n : Node) : Option (List Char) → Reading
  | none => r
  | some name => { r with anchors := (name, some n) :: r.anchors }

/-- A tag in full. -/
def fullTag (r : Reading) (handle : Option (List Char)) (text : List Char) :
    Except Fault (List Char) :=
  match handle with
  | none => .ok text
  | some h =>
    match r.handles.lookup h with
    | some meaning => .ok (meaning ++ text)
    | none => .error malformed

end Reading

/-- What stands before a node. -/
structure Properties where
  /-- The name that it is referred to with. -/
  anchor : Option (List Char)
  /-- Its tag. -/
  tag : Option (List Char)

namespace Properties

/-- A node has a name or a tag. -/
def isPresent (p : Properties) : Bool := p.anchor.isSome || p.tag.isSome

/-- The tag does not say anything. -/
def isOpen (p : Properties) : Bool := p.tag.all (· == ['!'])

/-- The kind of a collection. -/
def kind (p : Properties) (usual : Kind) : Kind :=
  match p.tag with
  | some t => if p.isOpen then usual else Kind.ofTag t
  | none => usual

/-- The scalar of a text. -/
def scalar (p : Properties) (plain : Bool) (text : List Char) : Node :=
  match p.tag with
  | some t => .scalar (if p.isOpen then Kind.ofPlain text else Kind.ofTag t) text
  | none => .scalar (if plain then Kind.ofPlain text else .text) text

/-- The scalar that stands where only a name or a tag is written. -/
def missing (p : Properties) : Node := p.scalar true []

end Properties

/-- What stands before a node at the start. -/
def properties (r : Reading) : Except Fault (Properties × Reading) :=
  match r.rest with
  | .anchor a :: .tag h t :: rest => do
    let t ← r.fullTag h t
    pure (⟨some a, some t⟩, { r with rest })
  | .tag h t :: .anchor a :: rest => do
    let t ← r.fullTag h t
    pure (⟨some a, some t⟩, { r with rest })
  | .anchor a :: rest => .ok (⟨some a, none⟩, { r with rest })
  | .tag h t :: rest => do
    let t ← r.fullTag h t
    pure (⟨none, some t⟩, { r with rest })
  | _ => .ok (⟨none, none⟩, r)

/-- Where a node stands, which decides what it may be. -/
inductive Position where
  /-- Between brackets or braces: no collection by indentation. -/
  | flow
  /-- An item of a block, or a whole document. -/
  | block
  /-- A key or a value of a block: also items that are not indented. -/
  | entry
deriving Repr, DecidableEq

/-- Nothing stands between the start of a key and what follows it. -/
def endsKey : List Lexeme → Bool
  | .key :: _ => true
  | .value :: _ => true
  | .blockEnd :: _ => true
  | _ => false

/-- An item or a value between brackets or braces ends. -/
def endsFlowItem (closing : Lexeme) : List Lexeme → Bool
  | l :: _ => l == .flowEntry || l == closing
  | [] => false

/-- The comma behind an item is passed, unless the collection ends there. -/
def afterItem (first : Bool) (closing : Lexeme) (r : Reading) : Except Fault Reading :=
  match r.rest with
  | l :: _ =>
    if first || l == closing then .ok r
    else if l == .flowEntry then .ok r.tail
    else .error malformed
  | [] => .error malformed

mutual

/-- The node at the start. -/
def node (place : Position) : Nat → Reading → Except Fault (Node × Reading)
  | 0, _ => .error malformed
  | fuel + 1, r =>
    match r.rest with
    | .reference a :: _ => (r.anchored a).map fun n => (n, r.tail)
    | _ => do
      let (p, r) ← properties r
      let r ← r.announce p.anchor
      let (n, r) ← content place p fuel r
      pure (n, r.settle n p.anchor)

/-- The node at the start behind what stands before it. -/
def content (place : Position) (p : Properties) : Nat → Reading → Except Fault (Node × Reading)
  | 0, _ => .error malformed
  | fuel + 1, r =>
    match r.rest, place with
    | .blockEntry :: _, .entry => do
      let (items, r) ← openItems fuel r
      pure (.sequence (p.kind .sequence) items, r)
    | .scalar plain text :: _, _ => .ok (p.scalar plain text, r.tail)
    | .flowSequence :: _, _ => do
      let (items, r) ← flowItems true fuel r.tail
      pure (.sequence (p.kind .sequence) items, r)
    | .flowMapping :: _, _ => do
      let (es, r) ← flowEntries true fuel r.tail
      pure (.mapping (p.kind .mapping) es, r)
    | l :: _, place =>
      if place != .flow && l == .blockSequence then do
        let (items, r) ← blockItems fuel r.tail
        pure (.sequence (p.kind .sequence) items, r)
      else if place != .flow && l == .blockMapping then do
        let (es, r) ← blockEntries fuel r.tail
        pure (.mapping (p.kind .mapping) es, r)
      else if p.isPresent then .ok (p.missing, r)
      else .error malformed
    | [], _ => if p.isPresent then .ok (p.missing, r) else .error malformed

/-- The items of a sequence by indentation, up to its end. -/
def blockItems : Nat → Reading → Except Fault (List Node × Reading)
  | 0, _ => .error malformed
  | fuel + 1, r =>
    match r.rest with
    | .blockEnd :: _ => .ok ([], r.tail)
    | .blockEntry :: rest => do
      let missing := match rest with
        | .blockEntry :: _ => true
        | .blockEnd :: _ => true
        | _ => false
      let (n, r) ← if missing then .ok (Node.missing, r.tail) else node .block fuel r.tail
      let (more, r) ← blockItems fuel r
      pure (n :: more, r)
    | _ => .error malformed

/-- The items of a sequence that is not indented, up to what is no item. -/
def openItems : Nat → Reading → Except Fault (List Node × Reading)
  | 0, _ => .error malformed
  | fuel + 1, r =>
    match r.rest with
    | .blockEntry :: rest => do
      let missing := endsKey rest || rest.head? == some .blockEntry
      let (n, r) ← if missing then .ok (Node.missing, r.tail) else node .block fuel r.tail
      let (more, r) ← openItems fuel r
      pure (n :: more, r)
    | _ => .ok ([], r)

/-- The entries of a mapping by indentation, up to its end. -/
def blockEntries : Nat → Reading → Except Fault (List (Node × Node) × Reading)
  | 0, _ => .error malformed
  | fuel + 1, r =>
    match r.rest with
    | .blockEnd :: _ => .ok ([], r.tail)
    | .key :: rest => do
      let (k, r) ← if endsKey rest then .ok (Node.missing, r.tail) else node .entry fuel r.tail
      let (v, r) ← blockValue fuel r
      let (more, r) ← blockEntries fuel r
      pure ((k, v) :: more, r)
    | _ => .error malformed

/-- The value of a key of a mapping by indentation. -/
def blockValue : Nat → Reading → Except Fault (Node × Reading)
  | 0, _ => .error malformed
  | fuel + 1, r =>
    match r.rest with
    | .value :: rest => if endsKey rest then .ok (Node.missing, r.tail) else node .entry fuel r.tail
    | _ => .ok (Node.missing, r)

/-- The items of a sequence in brackets, up to its end. -/
def flowItems (first : Bool) : Nat → Reading → Except Fault (List Node × Reading)
  | 0, _ => .error malformed
  | fuel + 1, r => do
    let r ← afterItem first .flowSequenceEnd r
    match r.rest with
    | .flowSequenceEnd :: _ => pure ([], r.tail)
    | .key :: rest => do
      let (k, r) ←
        if endsFlowItem .flowSequenceEnd rest || rest.head? == some .value then
          .ok (Node.missing, r.tail)
        else node .flow fuel r.tail
      let (v, r) ← flowValue .flowSequenceEnd fuel r
      let (more, r) ← flowItems false fuel r
      pure (.mapping .mapping [(k, v)] :: more, r)
    | _ => do
      let (n, r) ← node .flow fuel r
      let (more, r) ← flowItems false fuel r
      pure (n :: more, r)

/-- The entries of a mapping in braces, up to its end. -/
def flowEntries (first : Bool) : Nat → Reading → Except Fault (List (Node × Node) × Reading)
  | 0, _ => .error malformed
  | fuel + 1, r => do
    let r ← afterItem first .flowMappingEnd r
    match r.rest with
    | .flowMappingEnd :: _ => pure ([], r.tail)
    | .key :: rest => do
      let (k, r) ←
        if endsFlowItem .flowMappingEnd rest || rest.head? == some .value then
          .ok (Node.missing, r.tail)
        else node .flow fuel r.tail
      let (v, r) ← flowValue .flowMappingEnd fuel r
      let (more, r) ← flowEntries false fuel r
      pure ((k, v) :: more, r)
    | _ => do
      let (k, r) ← node .flow fuel r
      let (more, r) ← flowEntries false fuel r
      pure ((k, Node.missing) :: more, r)

/-- The value of a key between brackets or braces. -/
def flowValue (closing : Lexeme) : Nat → Reading → Except Fault (Node × Reading)
  | 0, _ => .error malformed
  | fuel + 1, r =>
    match r.rest with
    | .value :: rest =>
      if endsFlowItem closing rest then .ok (Node.missing, r.tail) else node .flow fuel r.tail
    | _ => .ok (Node.missing, r)

end

/-- The directives before a document. -/
structure Directives where
  /-- A version is given. -/
  versioned : Bool
  /-- The meanings of the handles of tags. -/
  handles : List (List Char × List Char)

/-- The directives at the start, and what follows them. -/
def directives (d : Directives) : List Lexeme → Except Fault (Directives × List Lexeme)
  | .version major :: rest =>
    if d.versioned || major != 1 then .error malformed
    else directives { d with versioned := true } rest
  | .handle h meaning :: rest =>
    if (d.handles.lookup h).isSome then .error malformed
    else directives { d with handles := (h, meaning) :: d.handles } rest
  | .directive :: rest => directives d rest
  | rest => .ok (d, rest)

/-- The node of a document behind its directives. -/
def documentBody (fuel : Nat) (handles : List (List Char × List Char)) (ls : List Lexeme) :
    Except Fault (Node × List Lexeme) :=
  match ls with
  | [] => .ok (Node.missing, [])
  | .documentStart :: _ => .ok (Node.missing, ls)
  | .documentEnd :: _ => .ok (Node.missing, ls)
  | _ => (node .block fuel ⟨ls, [], handles⟩).map fun (n, r) => (n, r.rest)

/-- The pieces are the end of the only document. -/
def isLastDocument (ls : List Lexeme) : Bool := ls.all (· == .documentEnd)

/-- The node of the only document, if there is one. -/
def document? (ls : List Lexeme) : Except Fault (Option Node) := do
  let fuel := 3 * ls.length + 3
  let (n, rest) ←
    match ls with
    | [] => pure (none, [])
    | .documentStart :: _ | .version _ :: _ | .handle .. :: _ | .directive :: _ => do
      let (d, rest) ← directives ⟨false, []⟩ ls
      match rest with
      | .documentStart :: rest =>
        let (n, rest) ← documentBody fuel (d.handles ++ Reading.knownHandles) rest
        pure (some n, rest)
      | _ => .error malformed
    | _ =>
      let (n, r) ← node .block fuel ⟨ls, [], Reading.knownHandles⟩
      pure (some n, r.rest)
  if isLastDocument rest then pure n else .error malformed

end Sigil.Yaml
