/-
# Layering parameters

The parameters of a run are the global values overlaid by the local parameters.  Local parameters
are interpreted once, with the plain global values as variables; global values that have to be
expanded see the plain global values overlaid by the interpreted local parameters.
-/
import Sigil.Globals.Resolve
import Sigil.Interpreter.Options
import Sigil.Interpreter.Walk

namespace Sigil

namespace Run

/-- What expands the text of a global value. -/
def expander (run : Run) : Globals.Expander := fun text bindings =>
  run.interpretString bindings text

/-- The local parameters with their strings interpreted, unless they are too large. -/
def interpretLocals (run : Run) (options : Options) (locals : Value) (bindings : Entries) :
    Eval Value :=
  if locals.isTruthy then do
    let items ← Eval.ofFault locals.iterate
    let _ ← Eval.onHost fun h =>
      let shown := ((Value.list items).shown.toOption).getD ""
      some (.ok (), h.diagnose ["self-interpreting local params", shown])
    let large ← Eval.ofFault (options.tooLarge locals)
    if large then pure locals else run.walk bindings locals
  else pure (.mapping [])

/-- The parameters of a run over the global values in force, if there are any. -/
def layer (run : Run) (options : Options) (locals : Value) (globals : Entries) : Eval Entries :=
  if globals.isEmpty then do
    let resolved ← run.interpretLocals options locals []
    Eval.ofFault resolved.toEntries
  else do
    let plain ← Eval.ofExcept (Globals.resolvePlain (.mapping globals))
    let resolved ← run.interpretLocals options locals plain
    let layered ← Globals.resolve (.mapping globals) (some run.expander) resolved
    let upper ← Eval.ofFault resolved.toEntries
    pure (Entries.update layered upper)

end Run

end Sigil
