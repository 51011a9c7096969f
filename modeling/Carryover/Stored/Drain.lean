import Carryover.Stored.Encode

/-!
# Iterators that are run through

Writing a value as JSON runs through the iterators in it, and nothing is left in them afterwards. So
a value that is stored after another one is what that one has left of it.

| value | iterators that are run through when it is stored |
| --- | --- |
| absent value, text, flag, number | none |
| row | those of its items |
| mapping | those of the values of its entries |
| record, model | those of its fields |
| plain object | those of its attributes without a leading underscore |
| iterator | itself, and those of what it has still to give |

Iterators that classes hold in their attributes, defaults and members are left out, and so are those
that numbers of declared classes hold. An iterator that stands twice in one value is written twice,
as if there were two.
-/

namespace Carryover

namespace Value

mutual

/-- What is left of a value after iterators have been run through. -/
def drained (marks : List Nat) : Value → Value
  | .row form items => .row form (drainedItems marks items)
  | .dict entries => .dict (drainedEntries marks entries)
  | .object cls attrs => .object cls (drainedAttrs marks attrs)
  | .iterator kind mark items =>
    .iterator kind mark (if marks.contains mark then [] else drainedItems marks items)
  | v => v

/-- What is left of the items of a row. -/
def drainedItems (marks : List Nat) : List Value → List Value
  | [] => []
  | v :: vs => drained marks v :: drainedItems marks vs

/-- What is left of the entries of a mapping. Keys hold no iterators that could be written. -/
def drainedEntries (marks : List Nat) : List (Value × Value) → List (Value × Value)
  | [] => []
  | (k, v) :: es => (k, drained marks v) :: drainedEntries marks es

/-- What is left of the attributes of an object. -/
def drainedAttrs (marks : List Nat) : List (String × Value) → List (String × Value)
  | [] => []
  | (name, v) :: attrs => (name, drained marks v) :: drainedAttrs marks attrs

end

end Value

namespace Classes

/-- Whether an attribute of an object is written if the object holds it. -/
def isWritten (Γ : Classes) (cls name : String) : Bool :=
  if Γ.isModel (.declared cls) || Γ.isRecord (.declared cls) then
    (Γ.storedFields (.declared cls)).any fun f => f.name == name
  else Γ.hasOpenAttrs (.declared cls) && !Γ.hasSlot cls name && !name.startsWith "_"

mutual

/-- The iterators that writing a value runs through. -/
def runThrough (Γ : Classes) : Value → List Nat
  | .row _ items => runThroughItems Γ items
  | .dict entries => runThroughEntries Γ entries
  | .object cls attrs => runThroughAttrs Γ cls attrs
  | .iterator _ mark items => mark :: runThroughItems Γ items
  | _ => []

/-- The iterators that writing the items of a row runs through. -/
def runThroughItems (Γ : Classes) : List Value → List Nat
  | [] => []
  | v :: vs => runThrough Γ v ++ runThroughItems Γ vs

/-- The iterators that writing the entries of a mapping runs through. -/
def runThroughEntries (Γ : Classes) : List (Value × Value) → List Nat
  | [] => []
  | (_, v) :: es => runThrough Γ v ++ runThroughEntries Γ es

/-- The iterators that writing the attributes of an object runs through. -/
def runThroughAttrs (Γ : Classes) (cls : String) : List (String × Value) → List Nat
  | [] => []
  | (name, v) :: attrs =>
    (if Γ.isWritten cls name then runThrough Γ v else []) ++ runThroughAttrs Γ cls attrs

end

/-- The iterators that storing a value runs through. -/
def usedUp (Γ : Classes) (v : Value) : List Nat :=
  if v.isPrimitive then [] else Γ.runThrough v

/-- The iterators that storing several values runs through. -/
def usedUpBy (Γ : Classes) (es : List (String × Value)) : List Nat :=
  es.flatMap fun e => Γ.usedUp e.2

/-- What storing a value leaves of it. -/
def leftOf (Γ : Classes) (v : Value) : Value :=
  v.drained (Γ.usedUp v)

/-- The values that are stored one after the other under their keys, each as it is when its turn
comes. -/
def inTurn (Γ : Classes) (used : List Nat) : List (String × Value) → List (String × Value)
  | [] => []
  | (key, v) :: rest => (key, v.drained used) :: inTurn Γ (used ++ Γ.usedUp v) rest

end Classes
end Carryover
