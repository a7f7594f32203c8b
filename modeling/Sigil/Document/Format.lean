/-
# Document formats

The formats in which values are written to and read from documents.  The format of a document
follows from the type of its content, from the extension of its file, or from how it begins.
-/
import Sigil.Path
import Sigil.Text.Blank
import Sigil.Text.Casing

namespace Sigil

/-- The formats of documents. -/
inductive DocumentFormat where
  /-- JSON. -/
  | json
  /-- YAML. -/
  | yaml
  /-- TOML. -/
  | toml
  /-- XML. -/
  | xml
deriving Repr, DecidableEq

namespace DocumentFormat

/-- The formats with their names, in the order in which a type of content is searched for them. -/
def names : List (String × DocumentFormat) :=
  [("json", .json), ("yaml", .yaml), ("toml", .toml), ("xml", .xml)]

/-- The name of a format. -/
def name : DocumentFormat → String
  | json => "json"
  | yaml => "yaml"
  | toml => "toml"
  | xml => "xml"

/-- The format of a name. -/
def ofName? (s : String) : Option DocumentFormat := names.lookup s

/-- The extensions of files. -/
def extensions : List (String × DocumentFormat) :=
  [(".json", .json), (".yaml", .yaml), (".yml", .yaml), (".toml", .toml), (".xml", .xml)]

/-- The format of an extension. -/
def ofExtension? (s : String) : Option DocumentFormat := extensions.lookup s

/-- The format that a type of content names. -/
def ofContentType? (contentType : String) : Option DocumentFormat :=
  let s := Text.lower contentType.toList
  (ofExtension? (String.ofList s)).or
    ((names.find? fun (n, _) => (Text.find? n.toList s).isSome).map (·.2))

/-- The format that the start of a document shows. -/
def ofStart? (text : List Char) : Option DocumentFormat :=
  match Text.stripLeft text with
  | '\x7b' :: _ => some .json
  | '[' :: _ => some .json
  | '<' :: _ => some .xml
  | _ => none

/-- The format of a document by its type of content, or else by its start. -/
def detect (contentType hint : Option String) : Option DocumentFormat :=
  (contentType.bind ofContentType?).or (hint.bind fun s => ofStart? s.toList)

/-- The format of a file by the extension of its path. -/
def ofPath? (path : String) : Option DocumentFormat :=
  let extension := (Path.splitExtension (Path.base path.toList)).2
  ofExtension? (String.ofList (Text.lower extension))

end DocumentFormat

end Sigil
