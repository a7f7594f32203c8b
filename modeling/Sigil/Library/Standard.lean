/-
# The standard library

All library functions with their short spellings, as a registry.  Texts are encrypted with AES.
-/
import Sigil.Cipher.Aes
import Sigil.Interpreter.Basic
import Sigil.Library.Arithmetic
import Sigil.Library.Dates
import Sigil.Library.Identifiers
import Sigil.Library.Logic
import Sigil.Library.Lookup
import Sigil.Library.Markup
import Sigil.Library.Places
import Sigil.Library.Replacement
import Sigil.Library.Secrets
import Sigil.Library.Strings

namespace Sigil.Library

/-- All library functions. -/
def builtins : List Builtin :=
  arithmetic ++ logic ++ lookups ++ strings ++ escapes ++ dates
    ++ secrets Cipher.Aes.package ++ identifiers ++ markup ++ places ++ replacements

/-- The short spellings and the names they stand for. -/
def aliases : List (String × String) :=
  [("gv", "getvalue"), ("gvq", "getvaluequoted"), ("gvescape", "getvalueescape"),
   ("gvunescape", "getvalueunescape"), ("genv", "getenv"), ("env", "getenv"), ("uuidv4", "uuid"),
   ("jsonstringify", "stringify")]

/-- The entry of a library function. -/
def Builtin.entry (b : Builtin) : RegistryEntry Callable :=
  ⟨b.signature.name, b.toCallable, b.signature.wantsParams⟩

/-- The entry of the function that interprets a template for each item of a sequence. -/
def forEachEntry : RegistryEntry Callable := ⟨forEachSignature.name, .forEach, false⟩

/-- The entries of the library by their full names. -/
def entries : List (RegistryEntry Callable) := forEachEntry :: builtins.map Builtin.entry

/-- The entry of a short spelling. -/
def aliasEntry (all : List (RegistryEntry Callable)) (name target : String) :
    Option (RegistryEntry Callable) :=
  (all.find? (·.name == target)).map fun e => { e with name := name }

/-- The registry of the standard library. -/
def standard : Functions :=
  ⟨entries ++ aliases.filterMap fun (name, target) => aliasEntry entries name target⟩

/-- An interpreter with the standard library and no global values. -/
def defaultInterpreter : Interpreter := ⟨standard, Globals.Store.empty⟩

end Sigil.Library
