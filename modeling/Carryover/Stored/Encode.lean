import Carryover.Failure
import Carryover.Json.OfValue

/-!
# Stored forms

A context holds texts, flags and numbers as they are, and the JSON text of every other value.
The absent value has no stored form.
-/

namespace Carryover
namespace Classes

/-- The JSON text of a value. -/
def jsonTextOf (Γ : Classes) (v : Value) : Except Failure String :=
  match Γ.json? v with
  | some j => .ok j.render
  | none => .error .unwritable

/-- The stored form of a value. -/
def encode (Γ : Classes) (v : Value) : Except Failure Value :=
  match v with
  | .null => .error .nothingToStore
  | v =>
    if v.isPrimitive then .ok v
    else
      match Γ.jsonTextOf v with
      | .ok text => .ok (.jsonText text)
      | .error e => .error e

end Classes
end Carryover
