import Carryover.Hint.Text

/-!
# Resolved hints

The hints of a function are resolved, which goes further than evaluating them: a text inside of a
composed type is evaluated as well, and so is what a text evaluates to. A text has to come to what
can be the type of an argument, but for the annotations of a class.
-/

namespace Carryover
namespace Hint

/-- Refuses what no text can come to. The message shows the first hundred characters of it. -/
def checkType (Γ : Classes) : Hint → Except Fault Unit
  | .object (.row .tuple items) =>
    .error ⟨.type, "Forward references must evaluate to types. Got " ++
      String.ofList ((Γ.shown (.row .tuple items)).toList.take 100) ++ "."⟩
  | _ => .ok ()

/-- Refuses what a text cannot come to as the type of an argument. -/
def checkArgument (Γ : Classes) (h : Hint) : Except Fault Unit :=
  match h with
  | .classVar (some _) => .error ⟨.type, h.render Γ ++ " is not valid as type argument"⟩
  | .classVar none => .error ⟨.type, "Plain " ++ h.render Γ ++ " is not valid as type argument"⟩
  | h => checkType Γ h

mutual

/-- The type that a hint comes to when all texts in it are evaluated. -/
def resolve (Γ : Classes) : Hint → Except Fault Hint
  | .written _ meaning => do
    checkArgument Γ meaning
    resolve Γ meaning
  | .failing _ fault => .error fault
  | .row form spelling item => do return .row form spelling (← resolve Γ item)
  | .dict spelling key value => do return .dict spelling (← resolve Γ key) (← resolve Γ value)
  | .tuple items => do return .tuple (← resolveAll Γ items)
  | .union members => do return unionOf (← resolveAll Γ members)
  | .annotated base notes => do return annotate (← resolve Γ base) notes
  | .classVar (some h) => do return .classVar (some (← resolve Γ h))
  | h => .ok h

/-- The types that hints come to; the first that fails is what they fail with. -/
def resolveAll (Γ : Classes) : List Hint → Except Fault (List Hint)
  | [] => .ok []
  | h :: hs => do return (← resolve Γ h) :: (← resolveAll Γ hs)

end

/-- The type that the annotation of a class comes to: a text may also come to one that is no type
of an argument. -/
def resolveAnnotation (Γ : Classes) : Hint → Except Fault Hint
  | .written _ meaning => do
    checkType Γ meaning
    resolve Γ meaning
  | h => resolve Γ h

end Hint

end Carryover
