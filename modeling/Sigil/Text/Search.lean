/-
# Searching and replacing

Occurrences of one text in another: the first position, and replacement of the first occurrence
or of all occurrences that do not overlap, from left to right.
-/

namespace Sigil.Text

/-- The position of the first occurrence of a text. -/
def find? (sought : List Char) : List Char → Option Nat
  | [] => if sought.isEmpty then some 0 else none
  | c :: rest =>
    if sought.isPrefixOf (c :: rest) then some 0 else (find? sought rest).map (· + 1)

/-- The text with the first occurrence of `old` replaced by `new`. -/
def replaceFirst (old new s : List Char) : List Char :=
  match find? old s with
  | some i => s.take i ++ new ++ s.drop (i + old.length)
  | none => s

/-- The text with all occurrences replaced, where `skip` characters belong to one already
replaced. -/
def replaceFrom (old new : List Char) : Nat → List Char → List Char
  | _, [] => []
  | skip + 1, _ :: rest => replaceFrom old new skip rest
  | 0, c :: rest =>
    if old.isPrefixOf (c :: rest) then new ++ replaceFrom old new (old.length - 1) rest
    else c :: replaceFrom old new 0 rest

/-- The text with every occurrence of the non-empty text `old` replaced by `new`. -/
def replaceAll (old new s : List Char) : List Char := replaceFrom old new 0 s

/-- The parts of a text before and after the first occurrence of a character. -/
def splitAt? (mark : Char) (s : List Char) : Option (List Char × List Char) :=
  match s.dropWhile (· != mark) with
  | [] => none
  | _ :: rest => some (s.takeWhile (· != mark), rest)

/-- The parts of a text between the occurrences of a character. -/
def splitOnChar (mark : Char) : List Char → List (List Char)
  | [] => [[]]
  | c :: rest =>
    match splitOnChar mark rest with
    | [] => [[c]]
    | part :: parts => if c == mark then [] :: part :: parts else (c :: part) :: parts

end Sigil.Text
