/-
# Addresses of resources

A text cut into scheme, authority, path, query and fragment, and the parts of the authority: user,
password, host and port.
-/
import Sigil.Decimal.Reading
import Sigil.Text.Casing
import Sigil.Text.Digit
import Sigil.Text.Quoted
import Sigil.Url.Address
import Sigil.Value.Show

namespace Sigil

/-- The address of a resource. -/
structure Url where
  /-- The scheme, in small letters. -/
  scheme : List Char
  /-- User, host and port. -/
  authority : List Char
  /-- The path. -/
  path : List Char
  /-- The query, behind a question mark. -/
  query : List Char
  /-- The fragment, behind a number sign. -/
  fragment : List Char
deriving Repr, DecidableEq

namespace Url

/-- The character may stand in a scheme. -/
def isSchemeChar (c : Char) : Bool := c.isAlphanum || c == '+' || c == '-' || c == '.'

/-- The parts before and after the first occurrence of a character; all of the text and nothing if
there is none. -/
def cut (mark : Char) (s : List Char) : List Char × List Char := (Text.splitAt? mark s).getD (s, [])

/-- The parts before and after the last occurrence of a character, if there is one. -/
def cutLast? (mark : Char) (s : List Char) : Option (List Char × List Char) :=
  (Text.splitAt? mark s.reverse).map fun (after, before) => (before.reverse, after.reverse)

/-- The scheme and what follows its colon. -/
def splitScheme (s : List Char) : List Char × List Char :=
  match s, Text.splitAt? ':' s with
  | c :: _, some (scheme, rest) =>
    if !scheme.isEmpty && c.isAlpha && scheme.all isSchemeChar then (Text.lower scheme, rest)
    else ([], s)
  | _, _ => ([], s)

/-- The authority behind two slashes and what follows it. -/
def splitAuthority (s : List Char) : List Char × List Char :=
  match s with
  | '/' :: '/' :: rest =>
    let inside (c : Char) : Bool := c != '/' && c != '?' && c != '#'
    (rest.takeWhile inside, rest.dropWhile inside)
  | s => ([], s)

/-- The text is an address of a future kind: a version behind a letter, and something after a
dot. -/
def isFutureAddress (s : List Char) : Bool :=
  match s with
  | 'v' :: rest =>
    let version := rest.takeWhile fun c => (Text.hexValue? c).isSome
    match rest.drop version.length with
    | '.' :: c :: more => !version.isEmpty && (c :: more).all (· != '\n')
    | _ => false
  | _ => false

/-- The check of what stands between brackets. -/
def checkBracketed (host : List Char) : Except Fault Unit :=
  if host.head? == some 'v' then
    if isFutureAddress host then .ok () else .error (Fault.value "IPvFuture address is invalid")
  else if isAddress4 host then .error (Fault.value "An IPv4 address cannot be in brackets")
  else if isAddress6 host then .ok ()
  else .error (Fault.value (Text.quoted (String.ofList host)
    ++ " does not appear to be an IPv4 or IPv6 address"))

/-- The check that brackets in an authority come in pairs and hold an address. -/
def checkBrackets (authority : List Char) : Except Fault Unit :=
  match authority.contains '[', authority.contains ']' with
  | true, true => checkBracketed (cut ']' (cut '[' authority).2).1
  | false, false => .ok ()
  | _, _ => .error (Fault.value "Invalid IPv6 URL")

/-- The characters that are written forms of texts with a mark that parts an address. -/
def disguisedMarks : List Nat :=
  [0x2047, 0x2048, 0x2049, 0x2100, 0x2101, 0x2105, 0x2106, 0x2A74, 0xFE13, 0xFE16, 0xFE55, 0xFE56,
   0xFE5F, 0xFE6B, 0xFF03, 0xFF0F, 0xFF1A, 0xFF1F, 0xFF20]

/-- The check that no mark hides in an authority. -/
def checkMarks (authority : List Char) : Except Fault Unit :=
  if authority.any fun c => disguisedMarks.contains c.toNat then
    .error (Fault.value ("netloc '" ++ String.ofList authority
      ++ "' contains invalid characters under NFKC normalization"))
  else .ok ()

/-- The text without control characters and blanks at its start, and without tabs and line
breaks. -/
def cleaned (s : List Char) : List Char :=
  (s.dropWhile fun c => c.toNat ≤ 0x20).filter fun c => c != '\t' && c != '\r' && c != '\n'

/-- The parts of a text. -/
def parse (s : List Char) : Except Fault Url := do
  let (scheme, rest) := splitScheme (cleaned s)
  let (authority, rest) := splitAuthority rest
  checkBrackets authority
  let (rest, fragment) := cut '#' rest
  let (path, query) := cut '?' rest
  checkMarks authority
  pure ⟨scheme, authority, path, query, fragment⟩

/-- User and password. -/
def credentials (u : Url) : List Char × List Char :=
  match cutLast? '@' u.authority with
  | some (info, _) => cut ':' info
  | none => ([], [])

/-- The text of the host and that of the port. -/
def hostAndPort (u : Url) : List Char × List Char :=
  let info := match cutLast? '@' u.authority with
    | some (_, info) => info
    | none => u.authority
  match Text.splitAt? '[' info with
  | some (_, bracketed) =>
    let (host, rest) := cut ']' bracketed
    (host, (cut ':' rest).2)
  | none => cut ':' info

/-- The host in small letters, but for its zone. -/
def host (u : Url) : List Char :=
  let name := (hostAndPort u).1
  let address := name.takeWhile (· != '%')
  Text.lower address ++ name.drop address.length

/-- The port; zero if none is given. -/
def port (u : Url) : Except Fault Nat :=
  let digits := (hostAndPort u).2
  if digits.isEmpty then .ok 0
  else if !digits.all Char.isDigit then
    .error (Fault.value ("Port could not be cast to integer value as "
      ++ Text.quoted (String.ofList digits)))
  else match Decimal.readInt (String.ofList digits) with
    | .error e => .error e.fault
    | .ok n =>
      if n ≤ 65535 then .ok n.toNat else .error (Fault.value "Port out of range 0-65535")

end Url

end Sigil
