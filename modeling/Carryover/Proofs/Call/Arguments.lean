import Carryover.Proofs.Call.Binding
import Carryover.Proofs.Call.Presentation
import Carryover.Proofs.Extract.Writes
import Carryover.Proofs.Field.Cache
import Carryover.Proofs.Field.Hierarchy

/-!
# What a call of a function comes to

A call can fail for three causes, and the earlier one in the table hides the later ones
(`extractCall_function`).

| cause | failure |
| --- | --- |
| the arguments do not bind | why they do not |
| the hint of a parameter, marked or not, or of the result cannot be resolved | its fault |
| a value cannot be taken or flattened | that of the first such value |

The fault of a hint comes with the name of the function, unless it asks the program to end.

Otherwise each marked parameter, whose own hint carries a directive, makes its writes, in the order
of the signature and by the argument it is bound to. The writes of one parameter do not depend on
those of another, as an extraction leaves behind nothing but kept fields and log entries
(`perform_applyDirective`). So the context is what all the writes make of an empty one.
-/

namespace Carryover

open Entries

variable {Γ : Classes}

/-! ### Parameters with directives -/

/-- The directive that the hint of a parameter carries. -/
def Parameter.directive? (Γ : Classes) (p : Parameter) : Option Directive :=
  p.hint.bind fun h => (h.resolved Γ).directive?

/-- A parameter with a directive, and its argument. -/
structure Marked where
  name : String
  value : Value
  directive : Directive

/-- The parameters with directives in the order of the signature, and their arguments. -/
def Signature.marks (Γ : Classes) (f : Signature) (bound : Arguments) : List Marked :=
  f.parameters.filterMap fun p =>
    (p.directive? Γ).bind fun d => (get? bound p.name).map fun v => ⟨p.name, v, d⟩

/-- The writes of a parameter with its argument: those of a value that is flattened, else the value
under the resolved key, and none without a value. -/
def Marked.writes (s : Session) (m : Marked) : List (String × Value) :=
  match m.directive.take? m.value with
  | .error _ | .ok none => []
  | .ok (some w) =>
    if m.directive.flatten then (perform (extractContext w) s).1.toOption.getD []
    else [(m.directive.resolve m.name, w)]

end Carryover
