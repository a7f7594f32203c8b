/-
# Documents

Values are written to documents and read from them.  The format is given, or follows from the type
of the content, the start of the document or the extension of its file.  A document whose format is
not known is a text.
-/
import Sigil.Bytes.Utf8
import Sigil.Document.Format
import Sigil.Json.Reader
import Sigil.Json.Writer
import Sigil.Toml.Read
import Sigil.Toml.Write
import Sigil.Xml.Read
import Sigil.Xml.Write
import Sigil.Yaml.Read
import Sigil.Yaml.Write

namespace Sigil

namespace DocumentFormat

/-- The value of a document in a format. -/
def read (format : DocumentFormat) (text : String) : Except Fault Value :=
  match format with
  | json => Json.read text
  | yaml => Yaml.read text
  | toml => Toml.read text
  | xml => Xml.read text

end DocumentFormat

/-- How a document is written. -/
structure DocumentOptions where
  /-- With indentation, where the format leaves a choice. -/
  pretty : Bool := true
  /-- The name of the root of an XML document whose value is no mapping. -/
  xmlRoot : Value := .text "root"

namespace Value

mutual

/-- The value with lists for its tuples. -/
def withLists : Value → Value
  | list items => list (itemsWithLists items)
  | tuple items => list (itemsWithLists items)
  | mapping es => mapping (entriesWithLists es)
  | v => v

/-- The items with lists for tuples. -/
def itemsWithLists : List Value → List Value
  | [] => []
  | v :: rest => withLists v :: itemsWithLists rest

/-- The entries with lists for the tuples in their values. -/
def entriesWithLists : List (Value × Value) → List (Value × Value)
  | [] => []
  | (k, v) :: rest => (k, withLists v) :: entriesWithLists rest

end

/-- The text of a document: bytes that are no text are replaced. -/
def documentText : Value → Except Fault String
  | bytes b => .ok (String.ofList (Bytes.decodeLenient b))
  | v => v.plain

end Value

namespace DocumentFormat

/-- The document of a value in a format. -/
def write (format : DocumentFormat) (options : DocumentOptions) (v : Value) : Except Fault String :=
  match format with
  | json => Json.render (if options.pretty then .indented else .compact) v
  | yaml => Yaml.render v
  | toml => Toml.render v
  | xml => Xml.render options.pretty options.xmlRoot v

end DocumentFormat

namespace Document

/-- The value of a document.  An empty name of a format counts as none; an unknown one makes the
document a text. -/
def read (data : Value) (contentType format : Option String) : Except Fault Value := do
  let text ← data.documentText
  let found := match format.filter (!·.isEmpty) with
    | some name => DocumentFormat.ofName? name
    | none => DocumentFormat.detect contentType (some text)
  match found with
  | some f => f.read text
  | none => pure (.text text)

/-- The fault of a format that values cannot be written in. -/
def unsupported (format : Option String) : Fault :=
  Fault.value ("Unsupported serialization format: " ++ (format.map Text.quoted).getD "None")

/-- The document of a value in the format of a name, in letters of any size. -/
def write (v : Value) (format : Option String) (options : DocumentOptions) : Except Fault String :=
  let name := String.ofList (Text.lower (format.getD "").toList)
  match DocumentFormat.ofName? name with
  | some f => f.write options v.withLists
  | none => .error (unsupported format)

/-- The fault of a file whose format cannot be told. -/
def uncertain (path : String) : Fault :=
  Fault.value ("cannot infer format of " ++ Text.quoted path ++ "; pass fmt=")

/-- The value of a file: its format is given or follows from the extension of its path. -/
def ofFile (path : String) (content : Value) (format : Option String) : Except Fault Value :=
  match format.filter (!·.isEmpty) with
  | some name => read content none (some name)
  | none =>
    match DocumentFormat.ofPath? path with
    | some f => read content none (some f.name)
    | none => .error (uncertain path)

end Document

end Sigil
