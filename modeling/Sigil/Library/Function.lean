/-
# Library functions

A library function reads its surroundings but leaves no effects: it is a function of the host, the
parameters in force and its complete arguments.  This file also holds the conversions by which
arguments become numbers and texts.
-/
import Sigil.Host
import Sigil.Number.Basic
import Sigil.Signature
import Sigil.Text.Search
import Sigil.Value.Text

namespace Sigil.Library

/-- What a library function gives. -/
abbrev Result := Except Fault Value

/-- A library function. -/
structure Builtin where
  /-- Its parameters. -/
  signature : Signature
  /-- What it gives for complete arguments. -/
  run : Host → Entries → List Value → Result

namespace Builtin

/-- A library function as it is registered. -/
def toCallable (b : Builtin) : Callable :=
  .function fun args params => ExceptT.mk fun h =>
    match b.signature.bind args params.isSome with
    | .error f => (.error (.fault f), h)
    | .ok full => ((b.run h (params.getD []) full).mapError .fault, h)

end Builtin

/-- A function of one argument. -/
def unary (name param : String) (f : Value → Result) : Builtin where
  signature := ⟨name, [param], [], false, false⟩
  run := fun _ _ args => match args with
    | [a] => f a
    | _ => .ok .null

/-- A function of two arguments. -/
def binary (name : String) (params : List String) (f : Value → Value → Result) : Builtin where
  signature := ⟨name, params, [], false, false⟩
  run := fun _ _ args => match args with
    | [a, b] => f a b
    | _ => .ok .null

/-- A function of two arguments, the second of which has a default. -/
def binaryOr (name param : String) (default : Value) (f : Value → Value → Result) : Builtin where
  signature := ⟨name, [param], [default], false, false⟩
  run := fun _ _ args => match args with
    | [a, b] => f a b
    | _ => .ok .null

/-- A function of three arguments, the last of which have defaults. -/
def ternary (name : String) (params : List String) (defaults : List Value)
    (f : Value → Value → Value → Result) : Builtin where
  signature := ⟨name, params, defaults, false, false⟩
  run := fun _ _ args => match args with
    | [a, b, c] => f a b c
    | _ => .ok .null

/-- A function of any number of arguments after the required ones. -/
def variadic (name : String) (params : List String) (f : List Value → Result) : Builtin where
  signature := ⟨name, params, [], true, false⟩
  run := fun _ _ args => f args

/-- The number that an argument reads as: a truth value is zero or one, a number itself, and any
other value what its text reads as. -/
def number (v : Value) : Except Fault Number :=
  match v with
  | .bool b => .ok (.int (if b then 1 else 0))
  | .int n => .ok (.int n)
  | .float x => .ok (.float x)
  | v => do
    let text ← v.toText
    let stripped := Text.strip text.toList
    if Decimal.isPlainInteger stripped then
      match Decimal.readInt (String.ofList stripped) with
      | .ok n => pure (.int n)
      | .error e => .error e.fault
    else
      match Decimal.readFloat (String.ofList stripped) with
      | .ok x => pure (.float x)
      | .error e => .error e.fault

/-- The argument reads as a number and is no truth value. -/
def readsAsNumber (v : Value) : Bool :=
  match v with
  | .bool _ => false
  | v => (number v).isOk

/-- The result of an operation on numbers as a fault or a value. -/
def lift {α : Type} (r : Except Number.Problem α) : Except Fault α := r.mapError (·.fault)

/-- The integer part of the number an argument reads as. -/
def integer (v : Value) : Except Fault Int := do
  let n ← number v
  lift n.truncate

/-- The characters of the text of an argument. -/
def chars (v : Value) : Except Fault (List Char) := (v.toText).map (·.toList)

/-- A text as a value. -/
def textValue (s : List Char) : Value := .text (String.ofList s)

end Sigil.Library
