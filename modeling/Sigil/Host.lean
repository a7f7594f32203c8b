/-
# The host

What the program around an interpretation lends to it: the environment, the time, random numbers;
and what it keeps of it: a journal of effects, a counter, and the lines of a diagnostic trace.  A
callable is a function of arguments, parameters and host, or the one function that hands templates
back to the interpreter.
-/
import Sigil.Failure
import Sigil.Registry

namespace Sigil

/-- The state of the surrounding program. -/
structure Host where
  /-- The environment variables. -/
  environment : List (String × String)
  /-- The current time. -/
  now : Moment
  /-- The value of every random number between zero and one. -/
  random : Float
  /-- The source of random bytes, repeated as often as needed. -/
  entropy : List UInt8
  /-- The effects so far. -/
  journal : List Value
  /-- How often the counter was read. -/
  counter : Nat
  /-- The lines of the diagnostic trace so far. -/
  diagnostics : List String

namespace Host

/-- The value of an environment variable. -/
def getenv? (h : Host) (name : String) : Option String :=
  (h.environment.find? (·.1 == name)).map (·.2)

/-- The value of an environment variable, empty if there is none. -/
def getenv (h : Host) (name : String) : String := (h.getenv? name).getD ""

/-- Random bytes. -/
def randomBytes (h : Host) (n : Nat) : List UInt8 :=
  ((List.replicate n h.entropy).flatten).take n

/-- The variable that turns the diagnostic trace on. -/
def debugVariable : String := "ISLET_DEBUG"

/-- The host after a line of the diagnostic trace, which is kept only if the trace is on. -/
def diagnose (h : Host) (parts : List String) : Host :=
  if (h.getenv debugVariable).isEmpty then h
  else { h with diagnostics := h.diagnostics ++ [joinWith " " ("[DBG]" :: parts)] }

/-- The diagnostic trace. -/
def diagnosticText (h : Host) : String :=
  joinWith "" (h.diagnostics.map (· ++ "\n"))

end Host

/-- An operation on the host that may fail. -/
abbrev HostAction (α : Type) := ExceptT Failure (StateM Host) α

/-- A function as it is registered. -/
inductive Callable where
  /-- A function of the arguments and, if it wants them, the parameters in force. -/
  | function (run : List Value → Option Entries → HostAction Value)
  /-- The function that interprets a template once for each item of a sequence. -/
  | forEach

/-- The registered functions of an interpreter. -/
abbrev Functions := Registry Callable

end Sigil
