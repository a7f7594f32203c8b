/-
# Lexemes of patterns

The text of a pattern cut into its lexemes: characters and sets, back-references, repetitions, and
the marks that open, part and close groups.  Escapes and sets are read here; what belongs to what is
not.
-/
import Sigil.Fault
import Sigil.Pattern.Basic
import Sigil.Text.Digit
import Sigil.Text.Hex
import Sigil.Text.Search
import Sigil.Text.Word

namespace Sigil.Pattern

/-- The kinds of groups. -/
inductive GroupKind where
  /-- A numbered group, which may have a name. -/
  | numbered (name : Option String)
  /-- A group without number. -/
  | plain
  /-- A group that matches in one way only. -/
  | atomic
  /-- A condition on what follows. -/
  | ahead (negated : Bool)
  /-- A condition on what precedes. -/
  | behind (negated : Bool)
deriving Repr, DecidableEq

/-- A lexeme. -/
inductive Lexeme where
  /-- A pattern that has no parts. -/
  | atom (p : Pattern)
  /-- A reference to a group by its number. -/
  | reference (n : Nat)
  /-- A reference to a group by its name. -/
  | namedReference (name : String)
  /-- A repetition of what precedes. -/
  | repetition (least : Nat) (most : Option Nat) (greed : Greed)
  /-- The start of a group. -/
  | opening (kind : GroupKind)
  /-- The end of a group. -/
  | closing
  /-- The mark between alternatives. -/
  | bar
  /-- A comment. -/
  | comment
deriving Repr, DecidableEq

/-- The fault of an ill-formed pattern. -/
def malformed : Fault := ⟨.pattern, none⟩

/-- The value of digits in a base. -/
def digitsIn (base : Nat) (s : List Char) : Nat :=
  s.foldl (fun n c => base * n + (Text.hexValue? c).getD 0) 0

/-- The character is an octal digit. -/
def isOctal (c : Char) : Bool := '0' ≤ c && c ≤ '7'

/-- The digits of a class at the start of a text, at most `n` of them. -/
def leading (p : Char → Bool) (n : Nat) (s : List Char) : List Char := (s.take n).takeWhile p

/-- A code point in exactly `n` hexadecimal digits. -/
def codePoint (n : Nat) (s : List Char) : Except Fault (Nat × List Char) :=
  let digits := leading (fun c => (Text.hexValue? c).isSome) n s
  if digits.length == n && digitsIn 16 digits ≤ 0x10FFFF then
    .ok (digitsIn 16 digits, s.drop n)
  else .error malformed

/-- The character of an escape of one letter. -/
def escapeLetter? : Char → Option Nat
  | 'a' => some 7
  | 'f' => some 12
  | 'n' => some 10
  | 'r' => some 13
  | 't' => some 9
  | 'v' => some 11
  | '\\' => some 92
  | _ => none

/-- The class of an escape of one letter. -/
def escapeClass? : Char → Option (Bool × CharClass)
  | 'd' => some (false, .digit)
  | 'D' => some (true, .digit)
  | 's' => some (false, .space)
  | 'S' => some (true, .space)
  | 'w' => some (false, .word)
  | 'W' => some (true, .word)
  | _ => none

/-- The condition of an escape of one letter. -/
def escapeAnchor? : Char → Option Anchor
  | 'A' => some .textStart
  | 'Z' => some .textEnd
  | 'b' => some .wordEdge
  | 'B' => some .noWordEdge
  | _ => none

/-- The code point of an escape that stands for a character by its number or by itself. -/
def escapedCode (c : Char) (rest : List Char) : Except Fault (Nat × List Char) :=
  match c with
  | 'x' => codePoint 2 rest
  | 'u' => codePoint 4 rest
  | 'U' => codePoint 8 rest
  | c => if c.isAlphanum then .error malformed else .ok (c.toNat, rest)

/-- An octal code point that has to be that of a byte. -/
def octalCode (digits rest : List Char) : Except Fault (Nat × List Char) :=
  if digitsIn 8 digits ≤ 0o377 then .ok (digitsIn 8 digits, rest) else .error malformed

/-- A number behind a backslash, its first digit being `c`: three octal digits are a character, and
any other one or two digits refer to a group. -/
def numberEscape (c : Char) (rest : List Char) : Except Fault (Lexeme × List Char) :=
  let more := leading Char.isDigit 1 rest
  match more, rest.drop 1 with
  | [d], e :: tail =>
    if isOctal c && isOctal d && isOctal e then
      (octalCode [c, d, e] tail).map fun (n, s) => (.atom (.literal n), s)
    else .ok (.reference (digitsIn 10 [c, d]), e :: tail)
  | _, _ => .ok (.reference (digitsIn 10 (c :: more)), rest.drop more.length)

/-- What stands behind a backslash outside sets. -/
def escapeLexeme (s : List Char) : Except Fault (Lexeme × List Char) :=
  match s with
  | [] => .error malformed
  | c :: rest =>
    match escapeClass? c, escapeAnchor? c, escapeLetter? c with
    | some (negated, k), _, _ => .ok (.atom (.set false [.category negated k]), rest)
    | _, some a, _ => .ok (.atom (.anchor a), rest)
    | _, _, some n => .ok (.atom (.literal n), rest)
    | _, _, _ =>
      if c == '0' then
        let digits := leading isOctal 2 rest
        .ok (.atom (.literal (digitsIn 8 digits)), rest.drop digits.length)
      else if c.isDigit then numberEscape c rest
      else (escapedCode c rest).map fun (n, s) => (.atom (.literal n), s)

/-- What stands behind a backslash within a set. -/
def escapeItem (s : List Char) : Except Fault (SetItem × List Char) :=
  match s with
  | [] => .error malformed
  | c :: rest =>
    match escapeClass? c, if c == 'b' then some 8 else escapeLetter? c with
    | some (negated, k), _ => .ok (.category negated k, rest)
    | _, some n => .ok (.single n, rest)
    | _, _ =>
      if isOctal c then
        let digits := c :: leading isOctal 2 rest
        (octalCode digits (s.drop digits.length)).map fun (n, s) => (.single n, s)
      else (escapedCode c rest).map fun (n, s) => (.single n, s)

/-- A single item at the start of a text within a set. -/
def itemAt (s : List Char) : Except Fault (SetItem × List Char) :=
  match s with
  | [] => .error malformed
  | '\\' :: rest => escapeItem rest
  | c :: rest => .ok (.single c.toNat, rest)

/-- The range between two items. -/
def rangeOf (first last : SetItem) : Except Fault SetItem :=
  match first, last with
  | .single m, .single n => if n < m then .error malformed else .ok (.range m n)
  | _, _ => .error malformed

/-- The items of a set up to its end; a bracket that comes `first` belongs to the set. -/
def itemsOf : Nat → Bool → List Char → Except Fault (List SetItem × List Char)
  | 0, _, _ => .error malformed
  | _, _, [] => .error malformed
  | fuel + 1, first, c :: rest =>
    if c == ']' && !first then .ok ([], rest)
    else do
      let (item, after) ← itemAt (c :: rest)
      match after with
      | '-' :: ']' :: tail => pure ([item, .single '-'.toNat], tail)
      | '-' :: more => do
        let (last, tail) ← itemAt more
        let range ← rangeOf item last
        let (items, tail) ← itemsOf fuel false tail
        pure (range :: items, tail)
      | _ => do
        let (items, tail) ← itemsOf fuel false after
        pure (item :: items, tail)

/-- A set of items; that of a single character is the character. -/
def setOf (negated : Bool) (items : List SetItem) : Pattern :=
  match items.eraseDups, negated with
  | [.single n], false => .literal n
  | kept, _ => .set negated kept

/-- The set behind an opening bracket. -/
def setLexeme (s : List Char) : Except Fault (Lexeme × List Char) :=
  let (negated, body) := match s with
    | '^' :: rest => (true, rest)
    | s => (false, s)
  (itemsOf (body.length + 1) true body).map fun (items, rest) => (.atom (setOf negated items), rest)

/-- The greed that a mark behind a repetition stands for. -/
def greedMark (s : List Char) : Greed × List Char :=
  match s with
  | '?' :: rest => (.lazy, rest)
  | '+' :: rest => (.possessive, rest)
  | s => (.greedy, s)

/-- A repetition with its mark. -/
def repetition (least : Nat) (most : Option Nat) (s : List Char) : Lexeme × List Char :=
  let (greed, rest) := greedMark s
  (.repetition least most greed, rest)

/-- The greatest number of repetitions that can be asked for. -/
def repetitionLimit : Nat := 4294967295

/-- The bounds between braces, if they are ones: digits, or two runs of digits with a comma
between. -/
def bounds? (s : List Char) : Option (List Char × List Char × List Char) :=
  let low := s.takeWhile Char.isDigit
  match s.drop low.length with
  | ',' :: rest =>
    let high := rest.takeWhile Char.isDigit
    match rest.drop high.length with
    | '\x7d' :: tail => some (low, high, tail)
    | _ => none
  | '\x7d' :: tail => if low.isEmpty then none else some (low, low, tail)
  | _ => none

/-- What an opening brace stands for. -/
def braceLexeme (s : List Char) : Except Fault (Lexeme × List Char) :=
  match bounds? s with
  | none => .ok (.atom (.literal '\x7b'.toNat), s)
  | some (low, high, rest) =>
    let least := digitsIn 10 low
    let most := if high.isEmpty then none else some (digitsIn 10 high)
    if repetitionLimit ≤ least || repetitionLimit ≤ most.getD 0 then .error ⟨.overflow, none⟩
    else if most.any (· < least) then .error malformed
    else .ok (repetition least most rest)

/-- The text up to a mark, which has to come; an escaped mark does not count. -/
def nameUntil (mark : Char) : List Char → Except Fault (List Char × List Char)
  | [] => .error malformed
  | '\\' :: c :: rest => (nameUntil mark rest).map fun (name, tail) => ('\\' :: c :: name, tail)
  | c :: rest =>
    if c == mark then .ok ([], rest)
    else (nameUntil mark rest).map fun (name, tail) => (c :: name, tail)

/-- The text is a name, made of word characters.  The rule for identifiers, which differs from this
for combining marks and for numbers that are no digits, is left out. -/
def isName (s : List Char) : Bool :=
  match s with
  | [] => false
  | c :: rest => Text.isWord c && !Text.isDigit c && rest.all Text.isWord

/-- A name up to a mark. -/
def groupName (mark : Char) (s : List Char) : Except Fault (String × List Char) := do
  let (name, rest) ← nameUntil mark s
  if isName name then pure (String.ofList name, rest) else .error malformed

/-- What stands behind an opening parenthesis with a question mark. -/
def extension (s : List Char) : Except Fault (Lexeme × List Char) :=
  match s with
  | ':' :: rest => .ok (.opening .plain, rest)
  | '>' :: rest => .ok (.opening .atomic, rest)
  | '=' :: rest => .ok (.opening (.ahead false), rest)
  | '!' :: rest => .ok (.opening (.ahead true), rest)
  | '<' :: '=' :: rest => .ok (.opening (.behind false), rest)
  | '<' :: '!' :: rest => .ok (.opening (.behind true), rest)
  | 'P' :: '<' :: rest =>
    (groupName '>' rest).map fun (name, tail) => (.opening (.numbered (some name)), tail)
  | 'P' :: '=' :: rest => (groupName ')' rest).map fun (name, tail) => (.namedReference name, tail)
  | '#' :: rest => (nameUntil ')' rest).map fun (_, tail) => (.comment, tail)
  | _ => .error malformed

/-- The lexeme at the start of `c :: rest`. -/
def lexemeAt (c : Char) (rest : List Char) : Except Fault (Lexeme × List Char) :=
  match c with
  | '\\' => escapeLexeme rest
  | '[' => setLexeme rest
  | '.' => .ok (.atom .any, rest)
  | '^' => .ok (.atom (.anchor .lineStart), rest)
  | '$' => .ok (.atom (.anchor .lineEnd), rest)
  | '|' => .ok (.bar, rest)
  | ')' => .ok (.closing, rest)
  | '(' =>
    match rest with
    | '?' :: more => extension more
    | rest => .ok (.opening (.numbered none), rest)
  | '?' => .ok (repetition 0 (some 1) rest)
  | '*' => .ok (repetition 0 none rest)
  | '+' => .ok (repetition 1 none rest)
  | '\x7b' => braceLexeme rest
  | c => .ok (.atom (.literal c.toNat), rest)

/-- The lexemes of a text, where `skip` characters belong to one already read. -/
def lexemesFrom : Nat → List Char → Except Fault (List Lexeme)
  | _, [] => .ok []
  | skip + 1, _ :: rest => lexemesFrom skip rest
  | 0, c :: rest => do
    let (l, tail) ← lexemeAt c rest
    let more ← lexemesFrom (rest.length - tail.length) rest
    pure (l :: more)

/-- The lexemes of a pattern. -/
def lexemes (s : List Char) : Except Fault (List Lexeme) := lexemesFrom 0 s

end Sigil.Pattern
