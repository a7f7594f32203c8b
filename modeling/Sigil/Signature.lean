/-
# Signatures

The parameters of a library function: required ones, ones with a default, any number of further
ones, and the parameters in force.  Binding arguments to a signature gives the complete list of
arguments, or says what is missing or too many.  The library itself counts as the first argument.
-/
import Sigil.Value.Show

namespace Sigil

/-- The parameters of a library function. -/
structure Signature where
  /-- The name of the function. -/
  name : String
  /-- The names of the required parameters. -/
  required : List String
  /-- The values of the optional parameters that are not given. -/
  defaults : List Value
  /-- Any number of further arguments may follow. -/
  variadic : Bool
  /-- The function is given the parameters in force. -/
  wantsParams : Bool

namespace Signature

/-- Names in quotes with a conjunction before the last. -/
def nameList (names : List String) : String :=
  let quoted := names.map Text.quoted
  match quoted.reverse with
  | [] => ""
  | [a] => a
  | [b, a] => a ++ " and " ++ b
  | last :: others => joinWith ", " others.reverse ++ ", and " ++ last

/-- The ending of a noun after a count. -/
def plural (n : Nat) : String := if n == 1 then "" else "s"

/-- A count as text. -/
def count (n : Nat) : String := Decimal.ofInt n

/-- The start of a message about the function. -/
def subject (s : Signature) : String := "StdLib._" ++ s.name ++ "()"

/-- The fault of giving parameters to a function that does not want them. -/
def unexpectedParams (s : Signature) : Fault :=
  Fault.type (s.subject ++ " got an unexpected keyword argument 'params'")

/-- The fault of too many arguments. -/
def tooMany (s : Signature) (given : Nat) (params : Bool) : Fault :=
  let least := s.required.length + 1
  let most := least + s.defaults.length
  let accepted :=
    if s.defaults.isEmpty then count most ++ " positional argument" ++ plural most
    else "from " ++ count least ++ " to " ++ count most ++ " positional arguments"
  let found :=
    if params then
      count (given + 1) ++ " positional argument" ++ plural (given + 1)
        ++ " (and 1 keyword-only argument) were"
    else count (given + 1) ++ (if given == 0 then " was" else " were")
  Fault.type (s.subject ++ " takes " ++ accepted ++ " but " ++ found ++ " given")

/-- The fault of missing arguments. -/
def missing (s : Signature) (names : List String) : Fault :=
  Fault.type (s.subject ++ " missing " ++ count names.length ++ " required positional argument"
    ++ plural names.length ++ ": " ++ nameList names)

/-- The fault of missing parameters. -/
def missingParams (s : Signature) : Fault :=
  Fault.type (s.subject ++ " missing 1 required keyword-only argument: 'params'")

/-- The complete arguments: those given, and the defaults of those that are not. -/
def bind (s : Signature) (args : List Value) (params : Bool) : Except Fault (List Value) :=
  if params && !s.wantsParams then .error s.unexpectedParams
  else if !s.variadic && s.required.length + s.defaults.length < args.length then
    .error (s.tooMany args.length params)
  else if args.length < s.required.length then .error (s.missing (s.required.drop args.length))
  else if s.wantsParams && !params then .error s.missingParams
  else .ok (args ++ s.defaults.drop (args.length - s.required.length))

end Signature

/-- The signature of the function that interprets a template for each item of a sequence. -/
def forEachSignature : Signature := ⟨"forof", ["values", "template"], [], false, false⟩

end Sigil
