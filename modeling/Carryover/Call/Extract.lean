import Carryover.Call.Callable
import Carryover.Extract

/-!
# Extracting the context of a call

The arguments of a call are bound first. Then the parameters with directives come into a
context in the order of the signature, as the fields of an object do.
-/

namespace Carryover

/-- Puts the arguments of parameters into a context, one after the other. -/
def placeArguments (bound : Arguments) :
    Entries String Directive → Context → Run Context
  | [], context => return context
  | (name, d) :: rest, context => do
    match Entries.get? bound name with
    | none => placeArguments bound rest context
    | some v =>
      let context ← applyDirective "param" name v d context
      placeArguments bound rest context

/-- The failure of hints that cannot be resolved: it names the function, unless the fault asks the
program to end. -/
def unresolvedHints (name : String) (f : Fault) : Failure :=
  if f.kind.isError then .extraction name (.raised f) else .raised f

/-- Extracts the context of a call. -/
def extractCall (c : Callable) (positional : List Value) (named : Entries String Value) :
    Run Context := do
  let Γ ← Run.classes
  match bind (c.parameters Γ) positional named with
  | .error f => throw (.binding f)
  | .ok bound =>
    match c.directives Γ with
    | .error f => throw (unresolvedHints c.name f)
    | .ok ds => placeArguments bound ds []

end Carryover
