/-
# Cutting a text into tokens

Free text passes through as words and blanks.  A call word is a sigil and a registered name; an
opening parenthesis right after it begins an argument list, further parentheses inside nest, and
only inside an argument list does a single quote begin a string.  The tokens of a text are its
consecutive pieces: nothing is lost and nothing is added but the final mark.
-/
import Sigil.Text.Casing
import Sigil.Text.Quoted
import Sigil.Token.Basic

namespace Sigil

/-- The character that begins a call word. -/
def sigil : Char := '@'

/-- The structural characters and their kinds. -/
def structural? : Char → Option TokenKind
  | '(' => some .opening
  | ')' => some .closing
  | ',' => some .comma
  | _ => none

/-- A character that may stand inside a word. -/
def isWordChar (c : Char) : Bool := (structural? c).isNone && !isSeparator c && c != sigil

/-- A name without a leading sigil, in lower case. -/
def normalizeName (name : String) : String :=
  match name.toList with
  | '@' :: rest => String.ofList (Text.lower rest)
  | cs => String.ofList (Text.lower cs)

/-- A word that is a sigil and the name of a registered function. -/
def isCallWord (isName : String → Bool) (word : List Char) : Bool :=
  match word with
  | '@' :: c :: rest => isName (normalizeName (String.ofList ('@' :: c :: rest)))
  | _ => false

/-- An ASCII digit. -/
def isNumeralDigit (c : Char) : Bool := '0' ≤ c && c ≤ '9'

/-- The number at the start of a text: digits, and a point with more digits if there are any. -/
def numberAt (s : List Char) : List Char :=
  let whole := s.takeWhile isNumeralDigit
  match s.dropWhile isNumeralDigit with
  | '.' :: rest =>
    let fraction := rest.takeWhile isNumeralDigit
    if fraction.isEmpty then whole else whole ++ '.' :: fraction
  | _ => whole

/-- What remains of a quoted string after its opening quote, the closing quote included.  A
backslash takes the next character with it. -/
def stringTail? : List Char → Option (List Char)
  | [] => none
  | ['\\'] => none
  | '\\' :: c :: rest => (stringTail? rest).map fun t => '\\' :: c :: t
  | c :: rest => if c == '\'' then some [c] else (stringTail? rest).map (c :: ·)

/-- A quoted string that does not end: where it begins and what it begins with. -/
structure UnterminatedString where
  /-- The offset of the opening quote. -/
  position : Nat
  /-- The first characters from there on. -/
  excerpt : String
deriving Repr, DecidableEq

/-- The wording of the error. -/
def UnterminatedString.message (e : UnterminatedString) : String :=
  "unterminated string starting at offset " ++ toString e.position ++ ": " ++ Text.quoted e.excerpt

/-- Where the scanner stands: the depth of nested parentheses, and whether a call word was just
read. -/
structure ScanState where
  /-- The number of open parentheses of argument lists. -/
  depth : Nat
  /-- The last token is a call word. -/
  afterCall : Bool
deriving Repr, DecidableEq

/-- The state after a token. -/
def ScanState.after (st : ScanState) (kind : TokenKind) : ScanState :=
  match kind with
  | .opening => ⟨if st.depth != 0 || st.afterCall then st.depth + 1 else st.depth, false⟩
  | .closing => ⟨st.depth - 1, false⟩
  | .call => ⟨st.depth, true⟩
  | _ => ⟨st.depth, false⟩

/-- The piece at the start of the non-empty text `c :: rest`; none if it is a string without end. -/
def pieceAt? (isName : String → Bool) (depth : Nat) (c : Char) (rest : List Char) :
    Option (TokenKind × List Char) :=
  if isSeparator c then some (.text, [c])
  else match structural? c with
    | some kind => some (kind, [c])
    | none =>
      if isNumeralDigit c then some (.number, numberAt (c :: rest))
      else if c == '\'' && depth != 0 then
        (stringTail? rest).map fun t => (.string, c :: t)
      else
        let word := c :: rest.takeWhile isWordChar
        some (if isCallWord isName word then .call else .text, word)

/-- The tokens of a text that begins at an offset.  Every piece has a character, so the length of
the text bounds the number of steps. -/
def scanFrom (isName : String → Bool) :
    Nat → ScanState → Nat → List Char → Except UnterminatedString (List Token)
  | 0, _, position, _ => .ok [⟨.ending, "", position⟩]
  | _ + 1, _, position, [] => .ok [⟨.ending, "", position⟩]
  | fuel + 1, st, position, c :: rest =>
    match pieceAt? isName st.depth c rest with
    | none => .error ⟨position, String.ofList ((c :: rest).take 20)⟩
    | some (kind, piece) => do
      let tokens ← scanFrom isName fuel (st.after kind) (position + piece.length)
        ((c :: rest).drop piece.length)
      pure (⟨kind, String.ofList piece, position⟩ :: tokens)

/-- The tokens of a text, where `isName` tells the registered names. -/
def tokenize (isName : String → Bool) (text : String) : Except UnterminatedString (List Token) :=
  scanFrom isName text.length ⟨0, false⟩ 0 text.toList

end Sigil
