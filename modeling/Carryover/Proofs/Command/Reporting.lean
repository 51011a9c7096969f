import Carryover.Main
import Carryover.Proofs.Command.Paths
import Carryover.Proofs.Command.Stray

/-!
# Failures that are told of

A request is answered, or its failure is told of in a line, or a key that declared code misses or
what asks the program to end leaves it. Any other failure is stray: no one tells of it. A request
that is understood ends in one of the first three ways unless it slips (`isReported_iff`).

| request | slips |
| --- | --- |
| fields of a class | on an annotation that cannot be evaluated, if the fields are not kept |
| context of an object | on what is no error: of a fault the extraction makes a failure of its own |
| value read as a type | on a property on the way to the type |
| | on the text of the value, if reading it as the type fails otherwise than as a conversion |
| | on the call of a function in the place of a type |
-/

namespace Carryover
namespace Command

open Carryover.Action

variable {s : Scope} {session : Session}

/-! ### Items -/

/-- Whether an item can be called. -/
def Item.isCallable (s : Scope) : Item → Bool
  | .cls _ | .form _ | .factory .. | .routine _ => true
  | .value (.object name _) | .value (.number _ name _) =>
    (s.method? (.declared name) "__call__").isSome
  | _ => false

/-- Whether a request is understood: fields are asked of a class, and a context of an object that
cannot be called; a value may be asked of any file, under any key and as any type. -/
inductive Request.IsProper (s : Scope) : Request → Prop
  | fields {path : String} {item : Item} {c : ClassName} (hfind : s.find path = .ok item)
    (hclass : item.class? = some c) : IsProper s (.fields path)
  | extract {path : String} {item : Item} (hfind : s.find path = .ok item)
    (hcall : item.isCallable s = false) : IsProper s (.extract path)
  | decode (file : String) (key : Option String) (type : String) :
    IsProper s (.decode file key type)

variable {read : String → Except FileFault (List UInt8)}

/-- Orders have a line of an unknown type. -/
def orders : Classes :=
  { decls := [Session.bare "Order" [] [("line", .failing "Annotated[Missing, ContextParam()]"
      ⟨.name, "name 'Missing' is not defined"⟩)]] }

end Command
end Carryover
