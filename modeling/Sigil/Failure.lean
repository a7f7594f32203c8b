/-
# Failures of an interpretation

A failure is a fault of some function or conversion, or an error of the language itself: a text that
is not cut or parsed, a name without value, a call whose function failed, an entry of the global
values that cannot be resolved.  An error of the language remembers the site, the string in which it
arose, and the marks that tell which run it belonged to.

A failure has a wording, but asking for it can be a fault again: the wording shows values, and an
integer with too many digits is not shown.  Whatever becomes the cause of an error is asked for its
wording.  Only such failures exist: an evaluation is not stopped from outside, and neither its depth
nor its memory is bounded.
-/
import Sigil.Node.Parse
import Sigil.Value.Show

namespace Sigil

/-- Where an error of the language arose. -/
structure Site where
  /-- The string that was interpreted. -/
  source : Value
  /-- The mark of the chain of runs. -/
  chain : Value
  /-- The mark of the process. -/
  process : Value

/-- A failure. -/
inductive Failure where
  /-- A fault of a function or a conversion. -/
  | fault (fault : Fault)
  /-- A failure of a function of this kind; asking for its wording ends in a fault. -/
  | wordless (kind : FaultKind) (fault : Fault)
  /-- An error of the language in a host's own words. -/
  | stated (message : String) (site : Option Site)
  /-- The text is not cut into tokens. -/
  | lexical (message : String) (position : Option Nat) (site : Option Site)
  /-- The tokens are not parsed. -/
  | parsing (error : ParseError) (site : Option Site)
  /-- A name has no value. -/
  | undefined (name : String) (site : Option Site)
  /-- A function failed when it was called. -/
  | call (function : String) (arguments : List Value) (cause : Failure) (trace : String)
      (site : Option Site)
  /-- An entry of the global values cannot be resolved. -/
  | globalValue (key : Value) (problem : String) (site : Option Site)
  /-- A failure of another kind escaped from the interpretation of a string. -/
  | escaped (cause : Failure) (site : Option Site)

namespace Failure

/-- The name of a failure's kind. -/
def kindName : Failure → String
  | fault f => f.kind.name
  | wordless kind _ => kind.name
  | stated .. => "IsletError"
  | lexical .. => "LexError"
  | parsing .. => "IsletSyntaxError"
  | undefined .. => "UndefinedVariableError"
  | call .. => "CallError"
  | globalValue .. => "GlobalValueError"
  | escaped .. => "InterpretError"

/-- The site, where the failure has one. -/
def site? : Failure → Option Site
  | fault _ => none
  | wordless .. => none
  | stated _ site => site
  | lexical _ _ site => site
  | parsing _ site => site
  | undefined _ site => site
  | call _ _ _ _ site => site
  | globalValue _ _ site => site
  | escaped _ site => site

/-- The failure is an error of the language. -/
def isLanguageError : Failure → Bool
  | fault _ => false
  | wordless .. => false
  | _ => true

/-- The failure at another site. -/
def withSite (site : Option Site) : Failure → Failure
  | fault f => fault f
  | wordless kind f => wordless kind f
  | stated m _ => stated m site
  | lexical m p _ => lexical m p site
  | parsing e _ => parsing e site
  | undefined n _ => undefined n site
  | call f args cause trace _ => call f args cause trace site
  | globalValue k p _ => globalValue k p site
  | escaped cause _ => escaped cause site

/-- The string of the site; absent if there is none. -/
def source (f : Failure) : Value := ((f.site?).map (·.source)).getD .null

/-- The failure located at a site; the first string in which it arose is kept. -/
def locate (site : Site) (f : Failure) : Failure :=
  match f.source with
  | .null => f.withSite (some site)
  | _ => f

/-- The text that tells which run a site belongs to. -/
def Site.correlation (site : Site) : Except Fault String :=
  match site.chain, site.process with
  | .null, .null => .ok ""
  | .null, process => (process.plain).map ("PROCESS: " ++ ·)
  | chain, _ => (chain.plain).map ("CHAIN: " ++ ·)

/-- The fault that telling of a site ends in, if it ends in one. -/
def Site.fault? (site : Site) : Option Fault :=
  match site.source with
  | .null => none
  | source =>
    match Site.correlation site, source.plain with
    | .error f, _ => some f
    | .ok _, .error f => some f
    | .ok _, .ok _ => none

/-- The fault that asking for the wording of a failure ends in, if it ends in one.  What an error
says of its cause or its key is settled when it arises, but not what it says of its site. -/
def wordingFault? : Failure → Option Fault
  | fault _ => none
  | wordless _ f => some f
  | e => e.site?.bind Site.fault?

/-- A message with its site. -/
def atSite (message : String) : Option Site → Option String
  | none => some message
  | some site =>
    match site.source with
    | .null => some message
    | source =>
      match Site.correlation site, source.plain with
      | .ok run, .ok text => some ("Interpreter: " ++ run ++ ": " ++ message ++ " IN: " ++ text)
      | _, _ => none

/-- The wording of a failure.  There is none if the failure, or one that caused it, has none. -/
def message : Failure → Option String
  | fault f => f.message
  | wordless .. => none
  | stated m site => atSite m site
  | lexical m _ site => atSite m site
  | parsing e site => atSite e.message site
  | undefined name site => atSite (name ++ " is undefined") site
  | call function _ cause trace site =>
    (message cause).bind fun m =>
      let head := "CallError in " ++ function ++ ": " ++ cause.kindName ++ ": " ++ m
      atSite (if trace.isEmpty then head else head ++ "\n" ++ trace) site
  | globalValue key problem site =>
    (key.shown.toOption).bind fun k => atSite ("global value " ++ k ++ ": " ++ problem) site
  | escaped cause site => (message cause).bind fun m => atSite (cause.kindName ++ ": " ++ m) site

/-- The error of a string that does not end. -/
def ofUnterminated (e : UnterminatedString) : Failure := lexical e.message (some e.position) none

end Failure

end Sigil
