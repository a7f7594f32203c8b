/-
# Parts of TOML documents

Blanks and comments, strings of the four kinds, numbers, dates and times.  Each reader takes its
part from the start of a text and gives the text after it.
-/
import Sigil.Decimal.Reading
import Sigil.Fault
import Sigil.Text.Hex
import Sigil.Value.Basic
import Sigil.Value.Show

namespace Sigil.Toml

/-- The fault of an ill-formed document. -/
def malformed : Fault := ⟨.toml, none⟩

/-- A blank within a line. -/
def isBlank (c : Char) : Bool := c == ' ' || c == '\t'

/-- The text without blanks at its start. -/
def skipBlanks (s : List Char) : List Char := s.dropWhile isBlank

/-- A control character other than the tab. -/
def isControl (c : Char) : Bool := (c.toNat < 0x20 && c != '\t') || c.toNat == 0x7F

/-- The text without a comment at its start. -/
def skipComment (s : List Char) : Except Fault (List Char) :=
  match s with
  | '#' :: rest =>
    if (rest.takeWhile (· != '\n')).any isControl then .error malformed
    else .ok (rest.dropWhile (· != '\n'))
  | s => .ok s

/-- The text without blanks, line breaks and comments at its start. -/
def skipLines : Nat → List Char → Except Fault (List Char)
  | 0, s => .ok s
  | fuel + 1, s =>
    match s with
    | '#' :: _ => do
      let rest ← skipComment s
      skipLines fuel rest
    | c :: rest => if isBlank c || c == '\n' then skipLines fuel rest else .ok s
    | [] => .ok []

/-- The text without blanks, line breaks and comments at its start. -/
def skipSpace (s : List Char) : Except Fault (List Char) := skipLines (s.length + 1) s

/-- The character of an escape of one letter. -/
def escapeLetter? : Char → Option Char
  | 'b' => some '\x08'
  | 't' => some '\t'
  | 'n' => some '\n'
  | 'f' => some '\x0c'
  | 'r' => some '\r'
  | '"' => some '"'
  | '\\' => some '\\'
  | _ => none

/-- A character in exactly `n` hexadecimal digits. -/
def codePoint (n : Nat) (s : List Char) : Except Fault (Char × List Char) :=
  let digits := s.take n
  match Text.hexToNat? digits with
  | some m =>
    if digits.length == n && m.isValidChar then .ok (Char.ofNat m, s.drop n) else .error malformed
  | none => .error malformed

/-- The text behind a backslash at the end of a line: blanks and line breaks are left out. -/
def skipFold (s : List Char) : Except Fault (List Char) :=
  match skipBlanks s with
  | [] => .ok []
  | '\n' :: rest => .ok (rest.dropWhile fun c => isBlank c || c == '\n')
  | _ => .error malformed

/-- What stands behind a backslash: the characters it stands for. -/
def escape (multiline : Bool) (s : List Char) : Except Fault (List Char × List Char) :=
  match s with
  | 'u' :: rest => (codePoint 4 rest).map fun (c, rest) => ([c], rest)
  | 'U' :: rest => (codePoint 8 rest).map fun (c, rest) => ([c], rest)
  | c :: rest =>
    if multiline && (isBlank c || c == '\n') then (skipFold s).map fun rest => ([], rest)
    else match escapeLetter? c with
      | some d => .ok ([d], rest)
      | none => .error malformed
  | [] => .error malformed

/-- The characters of a string with escapes, up to its end. -/
def basicString (multiline : Bool) : Nat → List Char → Except Fault (List Char × List Char)
  | 0, _ => .error malformed
  | _, [] => .error malformed
  | fuel + 1, '"' :: rest =>
    if !multiline then .ok ([], rest)
    else match rest with
      | '"' :: '"' :: tail => .ok ([], tail)
      | _ => (basicString multiline fuel rest).map fun (more, tail) => ('"' :: more, tail)
  | fuel + 1, '\\' :: rest => do
    let (cs, rest) ← escape multiline rest
    let (more, tail) ← basicString multiline fuel rest
    pure (cs ++ more, tail)
  | fuel + 1, c :: rest =>
    if isControl c && !(multiline && c == '\n') then .error malformed
    else (basicString multiline fuel rest).map fun (more, tail) => (c :: more, tail)

/-- The characters of a string without escapes on one line, up to its end. -/
def literalString : List Char → Except Fault (List Char × List Char)
  | [] => .error malformed
  | '\'' :: rest => .ok ([], rest)
  | c :: rest =>
    if isControl c then .error malformed
    else (literalString rest).map fun (more, tail) => (c :: more, tail)

/-- The characters of a string without escapes on several lines, up to its end. -/
def literalLines : List Char → Except Fault (List Char × List Char)
  | [] => .error malformed
  | '\'' :: '\'' :: '\'' :: rest => .ok ([], rest)
  | c :: rest =>
    if isControl c && c != '\n' then .error malformed
    else (literalLines rest).map fun (more, tail) => (c :: more, tail)

/-- A string on several lines may end with up to two more quotes, which belong to it. -/
def closingQuotes (quote : Char) (s : List Char × List Char) : List Char × List Char :=
  let extra := (s.2.take 2).takeWhile (· == quote)
  (s.1 ++ extra, s.2.drop extra.length)

/-- The text without a line break at its start. -/
def dropLineBreak : List Char → List Char
  | '\n' :: rest => rest
  | s => s

/-- A string at the start of a text, if one begins there. -/
def string? (s : List Char) : Option (Except Fault (List Char × List Char)) :=
  match s with
  | '"' :: '"' :: '"' :: rest =>
    some ((basicString true (s.length + 1) (dropLineBreak rest)).map (closingQuotes '"'))
  | '"' :: rest => some (basicString false (s.length + 1) rest)
  | '\'' :: '\'' :: '\'' :: rest =>
    some ((literalLines (dropLineBreak rest)).map (closingQuotes '\''))
  | '\'' :: rest => some (literalString rest)
  | _ => none

/-- Digits of a kind with single low lines between them, a digit being behind. -/
def moreDigits (p : Char → Bool) : List Char → List Char
  | '_' :: c :: rest => if p c then '_' :: c :: moreDigits p rest else []
  | c :: rest => if p c then c :: moreDigits p rest else []
  | [] => []

/-- Digits of a kind at the start of a text, with single low lines between them. -/
def groupedDigits (p : Char → Bool) (s : List Char) : List Char :=
  match s with
  | c :: rest => if p c then c :: moreDigits p rest else []
  | [] => []

/-- The digit belongs to a base. -/
def isDigitOf (base : Nat) (c : Char) : Bool := (Text.hexValue? c).any (· < base)

/-- The base that a letter behind a zero stands for. -/
def baseLetter? : Char → Option Nat
  | 'x' => some 16
  | 'o' => some 8
  | 'b' => some 2
  | _ => none

/-- An integer in another base than ten at the start of a text. -/
def basedInteger? (s : List Char) : Option (Value × List Char) :=
  match s with
  | '0' :: letter :: rest => do
    let base ← baseLetter? letter
    let digits := groupedDigits (isDigitOf base) rest
    if digits.isEmpty then none
    else
      let n := (digits.filter (· != '_')).foldl (fun n c => base * n + (Text.hexValue? c).getD 0) 0
      some (.int n, rest.drop digits.length)
  | _ => none

/-- The integer part of a number, without its sign: no zero stands before other digits. -/
def integerDigits (s : List Char) : List Char :=
  match s with
  | '0' :: _ => ['0']
  | s => groupedDigits Char.isDigit s

/-- The sign at the start of a text. -/
def signOf (s : List Char) : List Char :=
  match s with
  | '+' :: _ => ['+']
  | '-' :: _ => ['-']
  | _ => []

/-- The fraction at the start of a text. -/
def fractionOf (s : List Char) : List Char :=
  match s with
  | '.' :: rest =>
    let digits := groupedDigits Char.isDigit rest
    if digits.isEmpty then [] else '.' :: digits
  | _ => []

/-- The exponent at the start of a text. -/
def exponentOf (s : List Char) : List Char :=
  match s with
  | c :: rest =>
    let digits := groupedDigits Char.isDigit (rest.drop (signOf rest).length)
    if (c == 'e' || c == 'E') && !digits.isEmpty then c :: signOf rest ++ digits else []
  | [] => []

/-- A number in base ten at the start of a text. -/
def decimalNumber? (s : List Char) : Option (Except Fault (Value × List Char)) :=
  let sign := signOf s
  let whole := integerDigits (s.drop sign.length)
  if whole.isEmpty then none
  else
    let head := sign ++ whole
    let fraction := fractionOf (s.drop head.length)
    let exponent := exponentOf (s.drop (head.length + fraction.length))
    let all := head ++ fraction ++ exponent
    let rest := s.drop all.length
    if fraction.isEmpty && exponent.isEmpty then
      some (match Decimal.readInt (String.ofList head) with
        | .ok n => .ok (.int n, rest)
        | .error e => .error e.fault)
    else some (match Decimal.readFloat? (String.ofList all) with
      | some x => .ok (.float x, rest)
      | none => .error malformed)

/-- The words for infinity and for what is no number, with their signs. -/
def specialFloat? (s : List Char) : Option (Value × List Char) :=
  let sign := signOf s
  let word := (s.drop sign.length).take 3
  if word == "inf".toList || word == "nan".toList then
    (Decimal.readFloat? (String.ofList (sign ++ word))).map fun x =>
      (.float x, s.drop (sign.length + 3))
  else none

/-- The fraction of a second in microseconds; further digits do not count. -/
def microseconds (s : List Char) : Nat × List Char :=
  match s with
  | '.' :: rest =>
    let digits := rest.takeWhile Char.isDigit
    if digits.isEmpty then (0, s)
    else
      let six := (digits ++ List.replicate 6 '0').take 6
      (six.foldl (fun m c => 10 * m + (c.toNat - 48)) 0, rest.drop digits.length)
  | _ => (0, s)

/-- A time of day at the start of a text. -/
def clock? (s : List Char) : Option (Clock × List Char) := do
  let (hour, s) ← takeNumber? 2 s
  let (minute, s) ← takeNumber? 2 (← expectChar? ':' s)
  let (second, s) ← takeNumber? 2 (← expectChar? ':' s)
  let (micro, s) := microseconds s
  let c ← Clock.of? hour minute second micro
  pure (c, s)

/-- A year, a month and a day of the month at the start of a text; the month has a day of that
number in some year. -/
def dateParts? (s : List Char) : Option ((Nat × Nat × Nat) × List Char) := do
  let (year, s) ← takeNumber? 4 s
  let (month, s) ← takeNumber? 2 (← expectChar? '-' s)
  let (day, s) ← takeNumber? 2 (← expectChar? '-' s)
  if 1 ≤ month && month ≤ 12 && 1 ≤ day && day ≤ 31 then some ((year, month, day), s) else none

/-- An offset from universal time in microseconds at the start of a text. -/
def offset? (s : List Char) : Option (Int × List Char) :=
  match s with
  | 'Z' :: rest => some (0, rest)
  | 'z' :: rest => some (0, rest)
  | c :: rest => do
    let sign : Int ← if c == '+' then some 1 else if c == '-' then some (-1) else none
    let (hour, s) ← takeNumber? 2 rest
    let (minute, s) ← takeNumber? 2 (← expectChar? ':' s)
    if hour < 24 && minute < 60 then some (sign * ((hour * 60 + minute) * 60000000 : Nat), s)
    else none
  | [] => none

/-- A time of day behind a date. -/
def clockBehind? (s : List Char) : Option (Clock × List Char) :=
  match s with
  | c :: rest => if c == 'T' || c == 't' || c == ' ' then clock? rest else none
  | [] => none

/-- A date at the start of a text, with a time of day and an offset if they follow. -/
def date? (s : List Char) : Option (Except Fault (Value × List Char)) := do
  let ((year, month, day), rest) ← dateParts? s
  match Day.of? year month day, clockBehind? rest with
  | none, _ => some (.error malformed)
  | some d, none => some (.ok (.day d, rest))
  | some d, some (c, rest) =>
    match offset? rest with
    | some (o, rest) => some (.ok (.moment ⟨d, c⟩ (some o), rest))
    | none => some (.ok (.moment ⟨d, c⟩ none, rest))

/-- A date, a time or a number at the start of a text. -/
def plainValue (s : List Char) : Except Fault (Value × List Char) :=
  match date? s with
  | some r => r
  | none =>
    match clock? s, basedInteger? s with
    | some (c, rest), _ => .ok (.clock c, rest)
    | none, some found => .ok found
    | none, none =>
      match decimalNumber? s with
      | some r => r
      | none =>
        match specialFloat? s with
        | some found => .ok found
        | none => .error malformed

end Sigil.Toml
