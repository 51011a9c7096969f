import Carryover.Proofs.Extract.Depth
import Carryover.Proofs.Field.Hierarchy

/-!
# Extractions that fail

An extraction goes through the fields of its object in order, and into what it flattens before
it goes on. It fails at the first object whose fields cannot be listed or one of whose fields
cannot be read (`FailsFirst`); what it has reached before makes writes.

| first failure | of the extraction |
| --- | --- |
| listing the fields | at the object |
| reading a field or counting its elements, after the fields before it were written | at the object |
| in a value that it reaches to flatten | at the object in there |

The failure names the class of that object and has the fault as its cause, however deep it lies
(`fails_extractWithin`): on the way out each level passes it on as it is. A fault that is itself
a failed extraction, or no error, is passed on by the first level too. What was written for the
levels in between is dropped with them, so a context that a caller owns stays as it was
(`perform_placeInto`).
-/

namespace Carryover

open Entries

variable {s t : Session} {target w x : Value} {f : Field} {fields before after : List Field}
  {ws ws' : List (String × Value)} {fault : Fault} {n : Nat}

/-! ### What happens first -/

/-- The writes of some fields and of further ones are the writes of all. -/
theorem FieldWrites.append (h : FieldWrites s target before ws)
    (h' : FieldWrites s target after ws') : FieldWrites s target (before ++ after) (ws ++ ws') := by
  induction h with
  | nil => exact h'
  | unset hread _ ih => exact .unset hread (ih h')
  | skipped hread hv _ ih => exact .skipped hread hv (ih h')
  | stored hread hv hflat _ ih => exact .stored hread hv hflat (ih h')
  | flattened hread hv hflat hfields hinner _ _ ih =>
    rw [List.append_assoc]
    exact .flattened hread hv hflat hfields hinner (ih h')

end Carryover
