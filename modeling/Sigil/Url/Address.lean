/-
# Network addresses

The texts that are addresses of the fourth and of the sixth version of the internet protocol.
-/
import Sigil.Text.Hex
import Sigil.Text.Search

namespace Sigil.Url

/-- The text is a number from 0 to 255 without a zero in front. -/
def isOctet (s : List Char) : Bool :=
  let number := s.foldl (fun n c => 10 * n + (c.toNat - 48)) 0
  !s.isEmpty && s.length ≤ 3 && s.all (fun c => '0' ≤ c && c ≤ '9')
    && (s.length == 1 || s.head? != some '0') && number ≤ 255

/-- The text is an address of four numbers. -/
def isAddress4 (s : List Char) : Bool :=
  let parts := Text.splitOnChar '.' s
  parts.length == 4 && parts.all isOctet

/-- The text is a group of one to four hexadecimal digits. -/
def isGroup (s : List Char) : Bool :=
  !s.isEmpty && s.length ≤ 4 && s.all fun c => (Text.hexValue? c).isSome

/-- The groups of an address, where a last part with dots stands for two groups. -/
def addressGroups? (s : List Char) : Option (List (List Char)) :=
  let parts := Text.splitOnChar ':' s
  match parts.reverse with
  | last :: front =>
    if parts.length < 3 then none
    else if !last.contains '.' then some parts
    else if isAddress4 last then some (front.reverse ++ [['0'], ['0']])
    else none
  | [] => none

/-- All groups on one side of a gap are well formed. -/
def isSide (groups : List (List Char)) : Bool := groups.all isGroup

/-- The groups are those of an address: eight of them, or fewer with one gap, which is an empty
group inside, or two of them at either end. -/
def areGroups (groups : List (List Char)) : Bool :=
  let inner := (groups.drop 1).dropLast
  match inner.findIdx? List.isEmpty with
  | none => groups.length == 8 && isSide groups
  | some i =>
    let front := groups.take (i + 1)
    let back := groups.drop (i + 2)
    let high := if front.head? == some [] then front.drop 1 else front
    let low := if back.getLast? == some [] then back.dropLast else back
    isSide high && isSide low && (front.head? != some [] || high.isEmpty)
      && (back.getLast? != some [] || low.isEmpty) && high.length + low.length ≤ 7

/-- The text is an address of groups, with a zone behind a percent sign if one is named. -/
def isAddress6 (s : List Char) : Bool :=
  let (address, zoneFits) := match Text.splitAt? '%' s with
    | some (address, zone) => (address, !zone.isEmpty && !zone.contains '%')
    | none => (s, true)
  zoneFits && !s.contains '/'
    && (match addressGroups? address with
      | some groups => groups.length ≤ 9 && areGroups groups
      | none => false)

end Sigil.Url
