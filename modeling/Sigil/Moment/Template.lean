/-
# Templates of written moments

The format in which a moment is read is first turned into a template of directives, each a percent
sign and a letter, between literal text.  A directive accepts certain runs of characters, literal
text is compared without regard to case, and a run of blanks accepts any run of blanks.
-/
import Sigil.Moment.Format
import Sigil.Text.Folding

namespace Sigil.Moment

open Sigil.Text

/-- The letter of the directive that reads a part, if one does. -/
def Part.directive? : Part → Option Char
  | year => some 'Y'
  | shortYear => some 'y'
  | monthName => some 'B'
  | shortMonthName => some 'b'
  | month => some 'm'
  | plainMonth => some 'm'
  | day => some 'd'
  | plainDay => some 'd'
  | weekdayName => some 'A'
  | shortWeekdayName => some 'a'
  | hour => some 'H'
  | plainHour => some 'H'
  | halfDayHour => some 'I'
  | plainHalfDayHour => some 'I'
  | minute => some 'M'
  | plainMinute => some 'M'
  | second => some 'S'
  | plainSecond => some 'S'
  | millisecond => some 'f'
  | halfDay => some 'p'
  | smallHalfDay => some 'p'
  | dayOfYear => none
  | ordinalDay => none
  | unixSeconds => none
  | unixMilliseconds => none

/-- The template text of a piece of a format. -/
def Piece.template : Piece → List Char
  | literal c => [c]
  | bracketed text => text.flatMap fun c => if c == '%' then ['%', '%'] else [c]
  | part p =>
    match p.directive? with
    | some letter => ['%', letter]
    | none => p.letters

/-- The template text of a format. -/
def templateText (fmt : List Char) : List Char := (pieces fmt).flatMap Piece.template

/-- An element of a template. -/
inductive Element where
  /-- A character that stands for itself, in either case. -/
  | literal (c : Char)
  /-- A run of blanks. -/
  | blanks
  /-- The characters that a directive accepts. -/
  | directive (letter : Char)
deriving Repr, DecidableEq

/-- What can be wrong with a template. -/
inductive TemplateError where
  /-- A percent sign at the end. -/
  | stray
  /-- A letter that is no directive. -/
  | unknown (letter : Char)
  /-- A directive occurs twice. -/
  | repeated
deriving Repr, DecidableEq

/-- A character that a percent sign cannot be followed by: its escape would be taken for the
directive. -/
def isSpecial (c : Char) : Bool := "\\.^$*+?(){}[]|".toList.contains c

/-- The letters of directives that accept text themselves. -/
def directiveLetters : List Char := "dfHIGjmMSUwuVyYzAaBbpZW".toList

/-- The directives that stand for several others. -/
def compound? : Char → Option (List Char)
  | 'c' => some "%a %b %d %H:%M:%S %Y".toList
  | 'x' => some "%m/%d/%y".toList
  | 'X' => some "%H:%M:%S".toList
  | _ => none

/-- The elements of a template of known directives without compounds. -/
def plainElements : List Char → List Element
  | [] => []
  | '%' :: letter :: rest => .directive letter :: plainElements rest
  | c :: rest => (if isBlank c then .blanks else .literal c) :: plainElements rest

/-- The elements of a template; `afterBlank` tells that a run of blanks is being passed. -/
def elementsFrom : Bool → List Char → Except TemplateError (List Element)
  | _, [] => .ok []
  | _, ['%'] => .error .stray
  | _, '%' :: letter :: rest =>
    if letter == '%' then (elementsFrom false rest).map (.literal '%' :: ·)
    else if directiveLetters.contains letter then
      (elementsFrom false rest).map (.directive letter :: ·)
    else match compound? letter with
      | some inner => (elementsFrom false rest).map (plainElements inner ++ ·)
      | none =>
        .error (.unknown (if isSpecial letter || isBlank letter then '%' else letter))
  | afterBlank, c :: rest =>
    if isBlank c then
      (elementsFrom true rest).map fun es => if afterBlank then es else .blanks :: es
    else (elementsFrom false rest).map (.literal c :: ·)

/-- The letters of the directives among elements. -/
def directivesOf (es : List Element) : List Char :=
  es.filterMap fun e => match e with
    | .directive letter => some letter
    | _ => none

/-- A list without repetitions. -/
def allDistinct : List Char → Bool
  | [] => true
  | c :: rest => !rest.contains c && allDistinct rest

/-- The elements of a template, in which no directive may occur twice. -/
def elements (template : List Char) : Except TemplateError (List Element) := do
  let es ← elementsFrom false template
  if allDistinct (directivesOf es) then pure es else .error .repeated

/-- The class of characters in a range. -/
def between (first last c : Char) : Bool := first ≤ c && c ≤ last

/-- The character itself. -/
def only (x c : Char) : Bool := x == c

/-- The runs of characters that a directive of numbers accepts, in order of preference: a run is
given by the class of each of its characters. -/
def numberShapes : Char → List (List (Char → Bool))
  | 'd' => [[only '3', between '0' '1'], [between '1' '2', isDigit], [only '0', between '1' '9'],
      [between '1' '9'], [only ' ', between '1' '9']]
  | 'H' => [[only '2', between '0' '3'], [between '0' '1', isDigit], [isDigit]]
  | 'I' => [[only '1', between '0' '2'], [only '0', between '1' '9'], [between '1' '9']]
  | 'G' => [[isDigit, isDigit, isDigit, isDigit]]
  | 'j' => [[only '3', only '6', between '0' '6'], [only '3', between '0' '5', isDigit],
      [between '1' '2', isDigit, isDigit], [only '0', between '1' '9', isDigit],
      [only '0', only '0', between '1' '9'], [between '1' '9', isDigit],
      [only '0', between '1' '9'], [between '1' '9']]
  | 'm' => [[only '1', between '0' '2'], [only '0', between '1' '9'], [between '1' '9']]
  | 'M' => [[between '0' '5', isDigit], [isDigit]]
  | 'S' => [[only '6', between '0' '1'], [between '0' '5', isDigit], [isDigit]]
  | 'U' => [[only '5', between '0' '3'], [between '0' '4', isDigit], [isDigit]]
  | 'W' => [[only '5', between '0' '3'], [between '0' '4', isDigit], [isDigit]]
  | 'w' => [[between '0' '6']]
  | 'u' => [[between '1' '7']]
  | 'V' => [[only '5', between '0' '3'], [only '0', between '1' '9'], [between '1' '4', isDigit],
      [isDigit]]
  | 'y' => [[isDigit, isDigit]]
  | 'Y' => [[isDigit, isDigit, isDigit, isDigit]]
  | 'f' => (List.range 6).map fun n => List.replicate (6 - n) (between '0' '9')
  | 'z' =>
    let sign (c : Char) : Bool := c == '+' || c == '-'
    let low := between '0' '5'
    let minutes (tail : List (Char → Bool)) := [isDigit, isDigit, only ':', low, isDigit] ++ tail
    let tight (tail : List (Char → Bool)) := [isDigit, isDigit, low, isDigit] ++ tail
    let fractions : List (List (Char → Bool)) :=
      (List.range 6).map (fun n => only '.' :: List.replicate (6 - n) isDigit) ++ [[]]
    let tails := fractions.map ([only ':', low, isDigit] ++ ·)
      ++ fractions.map ([low, isDigit] ++ ·) ++ [[]]
    (tails.map fun t => sign :: minutes t) ++ (tails.map fun t => sign :: tight t) ++ [[only 'Z']]
  | _ => []

/-- The names that a directive accepts, the longer ones first. -/
def namesOf (letter : Char) : List String :=
  let names := match letter with
    | 'A' => weekdayNames
    | 'a' => shortWeekdayNames
    | 'B' => monthNames
    | 'b' => shortMonthNames
    | 'p' => ["am", "pm"]
    | 'Z' => ["utc", "gmt"]
    | _ => []
  names.mergeSort fun a b => decide (b.length ≤ a.length)

/-- The characters of a text belong to the classes of a shape, one after the other. -/
def fits : List (Char → Bool) → List Char → Bool
  | [], _ => true
  | _ :: _, [] => false
  | cls :: shape, c :: rest => cls c && fits shape rest

/-- The name stands at the start of a text, in either case. -/
def namePrefixes : List Char → List Char → Bool
  | [], _ => true
  | _ :: _, [] => false
  | a :: name, c :: rest => sameLetter a c && namePrefixes name rest

/-- The numbers of characters that an element can take at the start of a text, in order of
preference. -/
def Element.lengths (s : List Char) : Element → List Nat
  | literal c =>
    match s with
    | d :: _ => if sameLetter c d then [1] else []
    | [] => []
  | blanks =>
    let n := (s.takeWhile isBlank).length
    (List.range n).map fun k => n - k
  | directive letter =>
    ((numberShapes letter).filter (fits · s)).map (·.length)
      ++ ((namesOf letter).filter fun name => namePrefixes name.toList s).map (·.length)

/-- What the directives of a template read, in order. -/
abbrev Readings := List (Char × List Char)

/-- The reading of an element. -/
def Element.reading (e : Element) (text : List Char) : Readings :=
  match e with
  | directive letter => [(letter, text)]
  | _ => []

/-- The first way, in order of preference, in which elements accept the start of a text: what the
directives read, and the text that remains. -/
def matchElements : List Element → List Char → Option (Readings × List Char)
  | [], s => some ([], s)
  | e :: es, s =>
    (e.lengths s).findSome? fun n =>
      (matchElements es (s.drop n)).map fun (rs, rest) => (e.reading (s.take n) ++ rs, rest)

end Sigil.Moment
