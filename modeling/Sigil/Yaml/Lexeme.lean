/-
# Pieces of a YAML document

The pieces that a document is cut into.  The starts and ends of block collections, which show only
in the indentation, are pieces of their own, and so are the starts of keys, which show only when
the colon behind them is met.
-/
import Sigil.Yaml.Glyph

namespace Sigil.Yaml

/-- A piece of a document. -/
inductive Lexeme where
  /-- The version of the language. -/
  | version (major : Nat)
  /-- The meaning of a handle of tags. -/
  | handle (name meaning : List Char)
  /-- Another directive. -/
  | directive
  /-- The mark of the start of a document. -/
  | documentStart
  /-- The mark of the end of a document. -/
  | documentEnd
  /-- The start of a sequence by indentation. -/
  | blockSequence
  /-- The start of a mapping by indentation. -/
  | blockMapping
  /-- The end of a collection by indentation. -/
  | blockEnd
  /-- The start of a sequence in brackets. -/
  | flowSequence
  /-- The end of a sequence in brackets. -/
  | flowSequenceEnd
  /-- The start of a mapping in braces. -/
  | flowMapping
  /-- The end of a mapping in braces. -/
  | flowMappingEnd
  /-- The mark before an item. -/
  | blockEntry
  /-- The mark between items in brackets or braces. -/
  | flowEntry
  /-- The start of a key. -/
  | key
  /-- The mark before the value of a key. -/
  | value
  /-- What another node is referred to with. -/
  | reference (name : List Char)
  /-- What a node can be referred to with. -/
  | anchor (name : List Char)
  /-- The tag of a node; without a handle it is complete. -/
  | tag (handle : Option (List Char)) (tail : List Char)
  /-- A scalar, which is plain or else quoted. -/
  | scalar (plain : Bool) (text : List Char)
deriving Repr, DecidableEq

end Sigil.Yaml
