/-
# Paths and addresses

The parts of paths and of addresses of resources, and paths joined and in normal form.
-/
import Sigil.Library.Function
import Sigil.Path
import Sigil.Text.Blank
import Sigil.Text.Casing
import Sigil.Url.Basic

namespace Sigil.Library

/-- The name of a part that an argument gives, without quotes and blanks around, in small
letters. -/
def partName (v : Value) : Except Fault String := do
  let s ← chars v
  pure (String.ofList (Text.strip (Text.lower (s.filter fun c => c != '\'' && c != '"'))))

/-- The fault of asking for a part that there is none of. -/
def wrongPart (parser : String) (whole : List Char) (name : String) : Fault :=
  Fault.value (parser ++ " (" ++ String.ofList whole ++ ") wrong property " ++ name ++ ".")

/-- A part of a path. -/
def pathPart (path prop : Value) : Result :=
  if path.isTruthy then do
    let s ← chars path
    let name ← partName prop
    match Path.partNames.lookup name with
    | some p => pure (textValue (Path.part s p))
    | none => .error (wrongPart "PathParse" s name)
  else .ok (.text "")

/-- A path in normal form, with a slash at its end if it had one. -/
def pathNormal (path : Value) : Result := do
  let s ← chars path
  let out := Path.normal s
  let slash := !s.isEmpty && s.getLast? == some '/' && out.getLast? != some '/'
  pure (textValue (if slash then out ++ ['/'] else out))

/-- Paths joined, those that are empty being left out. -/
def pathJoin (parts : List Value) : Result := do
  let texts ← (parts.filter fun p => !p.isBlank).mapM chars
  pure (textValue (Path.normal (['/'].intercalate texts)))

/-- A text behind a mark, if it is not empty. -/
def marked (mark : Char) (s : List Char) : List Char := if s.isEmpty then [] else mark :: s

/-- The parts of an address with their names. -/
def urlParts (whole : List Char) (u : Url) (port : Nat) : List (String × List Char) :=
  let portText := if port == 0 then [] else (Decimal.ofInt port).toList
  let host := u.host ++ marked ':' portText
  [("href", whole), ("protocol", u.scheme ++ [':']), ("username", u.credentials.1),
   ("password", u.credentials.2), ("host", host), ("hostname", u.host), ("port", portText),
   ("pathname", if u.path.isEmpty then ['/'] else u.path), ("search", marked '?' u.query),
   ("hash", marked '#' u.fragment), ("origin", u.scheme ++ "://".toList ++ host)]

/-- A part of an address. -/
def urlPart (url prop : Value) : Result :=
  if url.isTruthy then do
    let s ← chars url
    let u ← Url.parse s
    if u.scheme.isEmpty || u.authority.isEmpty then
      .error (Fault.value ("UrlParser (" ++ String.ofList s ++ ") invalid URL."))
    else
      let port ← u.port
      let name ← partName prop
      match (urlParts s u port).lookup name with
      | some part => pure (textValue part)
      | none => .error (wrongPart "UrlParser" s name)
  else .ok (.text "")

/-- The functions of this file. -/
def places : List Builtin :=
  [binary "pathparse" ["path", "prop"] pathPart,
   unary "pathnormalize" "path" pathNormal,
   variadic "pathjoin" [] pathJoin,
   binary "urlparse" ["url", "prop"] urlPart]

end Sigil.Library
