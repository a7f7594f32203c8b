/-
# Paths

Paths whose steps are parted by slashes: their parts, and their normal form, in which no step is
empty, stays in place or leads back to where the one before came from.
-/
import Sigil.Text.Search

namespace Sigil.Path

/-- The path without slashes at its end. -/
def dropSlashes (s : List Char) : List Char := (s.reverse.dropWhile (· == '/')).reverse

/-- The last step, which follows the last slash. -/
def base (s : List Char) : List Char := (s.reverse.takeWhile (· != '/')).reverse

/-- What precedes the last step, without slashes at its end unless it consists of slashes. -/
def directory (s : List Char) : List Char :=
  let head := (s.reverse.dropWhile (· != '/')).reverse
  if head.all (· == '/') then head else dropSlashes head

/-- The name and the extension of a step: the extension begins at the last dot, if something other
than dots precedes it. -/
def splitExtension (s : List Char) : List Char × List Char :=
  let reversed := s.reverse
  let tail := reversed.takeWhile (· != '.')
  let stem := (reversed.drop (tail.length + 1)).reverse
  if tail.length < s.length && stem.any (· != '.') then (stem, '.' :: tail.reverse) else (s, [])

/-- The slashes that a path begins with in normal form: two exactly if it begins with two. -/
def rootSlashes (s : List Char) : List Char :=
  match s.takeWhile (· == '/') with
  | [] => []
  | [_, _] => ['/', '/']
  | _ => ['/']

/-- The steps taken so far, the last one first, after one more step. -/
def addStep (rooted : Bool) (taken : List (List Char)) (step : List Char) : List (List Char) :=
  if step.isEmpty || step == ['.'] then taken
  else if step != ['.', '.'] then step :: taken
  else match taken with
    | [] => if rooted then [] else [step]
    | last :: rest => if last == ['.', '.'] then step :: taken else rest

/-- The path in normal form. -/
def normal (s : List Char) : List Char :=
  let root := rootSlashes s
  let taken := (Text.splitOnChar '/' s).foldl (addStep (!root.isEmpty)) []
  let out := root ++ ['/'].intercalate taken.reverse
  if out.isEmpty then ['.'] else out

/-- The parts of a path that can be asked for. -/
inductive Part where
  /-- The slash of a path that begins at the root. -/
  | root
  /-- All but the last step. -/
  | directory
  /-- The last step. -/
  | base
  /-- The extension of the last step. -/
  | extension
  /-- The last step without its extension. -/
  | name
deriving Repr, DecidableEq

/-- The names of the parts. -/
def partNames : List (String × Part) :=
  [("root", .root), ("dir", .directory), ("base", .base), ("ext", .extension), ("name", .name)]

/-- A part of a path; slashes at its end do not count. -/
def part (s : List Char) : Part → List Char
  | .root => if s.head? == some '/' then ['/'] else []
  | .directory => if (dropSlashes s).isEmpty then s else directory (dropSlashes s)
  | .base => base (dropSlashes s)
  | .extension => (splitExtension (base (dropSlashes s))).2
  | .name => (splitExtension (base (dropSlashes s))).1

end Sigil.Path
