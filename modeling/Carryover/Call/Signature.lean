import Carryover.Hint.Basic

/-!
# Signatures

The parameters of a function in order.

| kind | takes |
| --- | --- |
| `positionOnly` | one positional argument |
| `either` | one positional or named argument |
| `restPositions` | all positional arguments that are left |
| `nameOnly` | one named argument |
| `restNames` | all named arguments that are left |
-/

namespace Carryover

/-- Which arguments a parameter takes. -/
inductive ParameterKind where
  | positionOnly
  | either
  | restPositions
  | nameOnly
  | restNames
  deriving DecidableEq

/-- A parameter of a function. -/
structure Parameter where
  name : String
  kind : ParameterKind
  hint : Option Hint
  default : Option Value

/-- A function: its name, its parameters and the hint of what it returns. -/
structure Signature where
  name : String
  parameters : List Parameter
  returns : Option Hint := none

namespace Signature

/-- The order in which the hints of parameters are evaluated, by their kinds. -/
def hintOrder : List ParameterKind :=
  [.either, .positionOnly, .restPositions, .nameOnly, .restNames]

/-- The hints of the parameters that have one, by name, in the order of their evaluation. -/
def hints (f : Signature) : Entries String Hint :=
  hintOrder.flatMap fun kind =>
    (f.parameters.filter (·.kind = kind)).filterMap fun p => p.hint.map (p.name, ·)

end Signature
end Carryover
