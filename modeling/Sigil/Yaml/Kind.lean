/-
# Kinds of YAML nodes

The kinds that tags name.  A plain scalar without a tag has the kind that its text shows: a truth
value, a number, a timestamp and so on, or else it is a text.
-/
import Sigil.Text.Search
import Sigil.Yaml.Timestamp

namespace Sigil.Yaml

/-- The kinds of nodes. -/
inductive Kind where
  /-- The absent value. -/
  | null
  /-- A truth value. -/
  | bool
  /-- An integer. -/
  | int
  /-- A float. -/
  | float
  /-- A timestamp. -/
  | timestamp
  /-- The key whose value is merged into its mapping. -/
  | merge
  /-- The key of the value that stands for its mapping. -/
  | value
  /-- A text. -/
  | text
  /-- Bytes in Base64. -/
  | binary
  /-- A sequence. -/
  | sequence
  /-- A mapping. -/
  | mapping
  /-- A kind that is not known. -/
  | unknown
deriving Repr, DecidableEq

/-- What the tags of the known kinds begin with. -/
def Kind.tagStart : String := "tag:yaml.org,2002:"

/-- The names of the known kinds. -/
def Kind.names : List (String × Kind) :=
  [("null", .null), ("bool", .bool), ("int", .int), ("float", .float), ("timestamp", .timestamp),
   ("merge", .merge), ("value", .value), ("str", .text), ("binary", .binary), ("seq", .sequence),
   ("map", .mapping)]

/-- The kind that a tag names. -/
def Kind.ofTag (tag : List Char) : Kind :=
  ((names.find? fun (n, _) => (tagStart ++ n).toList == tag).map (·.2)).getD .unknown

/-- The short form of the tag of a kind. -/
def Kind.shortTag (k : Kind) : List Char :=
  '!' :: '!' :: ((names.find? (·.2 == k)).map (·.1.toList)).getD []

/-! ### What the text of a plain scalar shows -/

/-- The words for truth values. -/
def boolWords : List (String × Bool) :=
  [("yes", true), ("no", false), ("true", true), ("false", false), ("on", true), ("off", false)]

/-- A word in small letters, with a capital at its start, or in capitals. -/
def isWord (word s : List Char) : Bool :=
  s == word || s == word.map Char.toUpper
    || s == (match word with | c :: rest => c.toUpper :: rest | [] => [])

/-- A word for a truth value. -/
def isBool (s : List Char) : Bool := boolWords.any fun (w, _) => isWord w.toList s

/-- A word for the absent value, or nothing. -/
def isNull (s : List Char) : Bool := s.isEmpty || s == ['~'] || isWord "null".toList s

/-- The text without a sign at its start. -/
def unsigned : List Char → List Char
  | '+' :: rest => rest
  | '-' :: rest => rest
  | s => s

/-- A digit or a low line. -/
def isGroupDigit (c : Char) : Bool := c.isDigit || c == '_'

/-- Digits and low lines, a digit first. -/
def isDigits : List Char → Bool
  | c :: rest => c.isDigit && rest.all isGroupDigit
  | [] => false

/-- A number below sixty of one or two digits. -/
def isSixtieth : List Char → Bool
  | [c] => c.isDigit
  | [c, d] => '0' ≤ c && c ≤ '5' && d.isDigit
  | _ => false

/-- Digits with numbers below sixty behind colons, at least one. -/
def isSexagesimal (s : List Char) : Bool :=
  match Text.splitOnChar ':' s with
  | first :: rest => isDigits first && !rest.isEmpty && rest.all isSixtieth
  | [] => false

/-- Nothing, or an exponent with a sign. -/
def isExponent : List Char → Bool
  | [] => true
  | c :: rest =>
    (c == 'e' || c == 'E') && unsigned rest != rest && !(unsigned rest).isEmpty
      && (unsigned rest).all Char.isDigit

/-- A float behind its sign: digits with a point among them, with an exponent or in sixtieths. -/
def isPointed (signed : Bool) (s : List Char) : Bool :=
  match Text.splitAt? '.' s with
  | some (whole, rest) =>
    if whole.isEmpty then
      !signed && isDigits (rest.takeWhile isGroupDigit) && isExponent (rest.dropWhile isGroupDigit)
    else
      (isDigits whole && isExponent (rest.dropWhile isGroupDigit))
        || (isSexagesimal whole && rest.all isGroupDigit)
  | none => false

/-- A word behind a point: in small letters, with a capital at its start, or in capitals. -/
def isPointWord (word : String) : List Char → Bool
  | '.' :: rest => isWord word.toList rest
  | _ => false

/-- The text of a float. -/
def isFloat (s : List Char) : Bool :=
  let body := unsigned s
  isPointed (body != s) body || isPointWord "inf" body
    || s == ".nan".toList || s == ".NaN".toList || s == ".NAN".toList

/-- Digits of a kind and low lines, at least one. -/
def isBased (p : Char → Bool) (s : List Char) : Bool := !s.isEmpty && s.all fun c => p c || c == '_'

/-- The text of an integer: in base two, eight, ten or sixteen, or in sixtieths. -/
def isInt (s : List Char) : Bool :=
  match unsigned s with
  | '0' :: 'b' :: rest => isBased (fun c => c == '0' || c == '1') rest
  | '0' :: 'x' :: rest => isBased (fun c => (Text.hexValue? c).isSome) rest
  | '0' :: rest => rest.all fun c => ('0' ≤ c && c ≤ '7') || c == '_'
  | body => isDigits body || isSexagesimal body

/-- The kind of a plain scalar by its text. -/
def Kind.ofPlain (s : List Char) : Kind :=
  if isBool s then .bool
  else if isFloat s then .float
  else if isInt s then .int
  else if s == "<<".toList then .merge
  else if isNull s then .null
  else if (timestamp? false s).isSome then .timestamp
  else if s == ['='] then .value
  else .text

end Sigil.Yaml
