import Carryover.Call.Binding
import Carryover.Class.Construct
import Carryover.Hint.Resolve

/-!
# Callables

A callable binds arguments to its parameters, and has directives of its own. Both come from the
function at the heart of it, of which the ways of presenting one function make a routine: on its
own, or with a leading `self`, which is bound and takes no argument.

| callable | parameters | directives |
| --- | --- | --- |
| function, wrapped or not | those of the function | by its hints |
| method of a class or an object | those of the function but `self` | by its hints, that of `self` too |
| partial application | those that are left | none |
| class | those of its constructor | by its annotations |
-/

namespace Carryover

/-- The ways in which a function can be presented. -/
inductive Presentation where
  | function
  | staticMethod
  | wrapped
  | method
  | classMethod
  | wrappedMethod
  /-- An object that is called. -/
  | object
  deriving DecidableEq

/-- Something that can be called. -/
inductive Callable where
  | presented (as : Presentation) (f : Signature) (selfHint : Option Hint)
  | partialOf (f : Signature) (bound : List Value)
  | cls (name : String)

/-- Whether the function belongs to a class. -/
def Presentation.isMember : Presentation → Bool
  | .function | .wrapped => false
  | _ => true

/-- A function, or a function around another routine, of which it shows parameters and hints. -/
inductive Routine where
  | plain (f : Signature)
  | around (inner : Routine)

/-- The function at the heart of a routine. -/
def Routine.unwrapped : Routine → Signature
  | .plain f => f
  | .around inner => inner.unwrapped

/-- What a call reaches a routine by. -/
inductive Handle where
  /-- The routine itself. -/
  | direct (r : Routine)
  /-- The routine with its first argument. -/
  | bound (r : Routine)
  /-- An object whose class has the routine for calls. -/
  | object (r : Routine)

/-- The parameters that are left when some positional arguments are bound. -/
def dropPositions : List Parameter → Nat → List Parameter
  | params, 0 => params
  | [], _ => []
  | p :: rest, n + 1 =>
    match p.kind with
    | .positionOnly | .either => dropPositions rest n
    | _ => p :: rest

@[simp] theorem dropPositions_zero (params : List Parameter) : dropPositions params 0 = params := by
  cases params <;> rfl

namespace Handle

/-- The function whose hints hold the directives. -/
def function : Handle → Signature
  | .direct r | .bound r | .object r => r.unwrapped

/-- The parameters that take the arguments of a call. -/
def parameters (h : Handle) : List Parameter :=
  match h with
  | .direct _ => h.function.parameters
  | .bound _ | .object _ => dropPositions h.function.parameters 1

end Handle

/-- A function with `self` before its parameters. -/
def Signature.withSelf (f : Signature) (hint : Option Hint) : Signature :=
  let kind := if f.parameters.any (·.kind = .positionOnly) then .positionOnly else .either
  { f with parameters := ⟨"self", kind, hint, none⟩ :: f.parameters }

/-- What presents a function; `self` has a hint where there is one. -/
def Presentation.present (as : Presentation) (f : Signature) (selfHint : Option Hint) : Handle :=
  match as with
  | .function | .staticMethod => .direct (.plain f)
  | .wrapped => .direct (.around (.plain f))
  | .method | .classMethod => .bound (.plain (f.withSelf selfHint))
  | .wrappedMethod => .bound (.around (.plain (f.withSelf selfHint)))
  | .object => .object (.plain (f.withSelf selfHint))

/-- However a function is presented, its own parameters take the arguments. -/
@[simp] theorem Presentation.parameters_present (as : Presentation) (f : Signature)
    (selfHint : Option Hint) : (as.present f selfHint).parameters = f.parameters := by
  have hself : dropPositions (f.withSelf selfHint).parameters 1 = f.parameters := by
    unfold Signature.withSelf
    split <;> simp [dropPositions]
  cases as <;> first | rfl | exact hself

namespace Classes

/-- The parameters of the constructor of a class. -/
def parametersOf (Γ : Classes) (c : ClassName) : List Parameter :=
  if Γ.isModel c then
    (Γ.storedFields c).map fun f => ⟨f.argumentName, .nameOnly, none, f.default⟩
  else
    match Γ.constructor? c with
    | some k => k.parameters.map (·.toParameter)
    | none => []

end Classes

/-- Hints by name, resolved one after the other. -/
def resolveEach (resolve : Hint → Except Fault Hint) :
    Entries String Hint → Except Fault (Entries String Hint)
  | [] => .ok []
  | (name, h) :: rest => do
    let meaning ← resolve h
    let more ← resolveEach resolve rest
    return (name, meaning) :: more

/-- The types that the hints of the parameters of a function come to, by name. The hint of what it
returns is resolved last. -/
def Signature.table (Γ : Classes) (f : Signature) : Except Fault (Entries String Hint) := do
  let hints ← resolveEach (Hint.resolve Γ) f.hints
  let _ ← f.returns.mapM (Hint.resolve Γ)
  return hints

/-- The parameters that carry directives by a table of hints. -/
def marked (table : Entries String Hint) (params : List Parameter) : Entries String Directive :=
  params.filterMap fun p =>
    (Entries.get? table p.name).bind fun h => h.directive?.map (p.name, ·)

namespace Callable

/-- The parameters that take the arguments of a call. -/
def parameters (Γ : Classes) : Callable → List Parameter
  | .presented as f selfHint => (as.present f selfHint).parameters
  | .partialOf f bound => dropPositions f.parameters bound.length
  | .cls name => Γ.parametersOf (.declared name)

/-- The name of the function or class whose hints hold the directives. -/
def name : Callable → String
  | .presented as f _ =>
    if as = .object then "m.Svc.__call__"
    else if as.isMember then "m.Svc." ++ f.name
    else "m." ++ f.name
  | .partialOf _ _ => "partial.__call__"
  | .cls name => (ClassName.declared name).qualified

/-- The parameters that can carry directives. -/
def declared (Γ : Classes) : Callable → List Parameter
  | .presented as f selfHint => (as.present f selfHint).function.parameters
  | c => c.parameters Γ

/-- The types that the hints of a callable come to, by parameter name. A hint without a directive
may hide one of a base class. -/
def table (Γ : Classes) : Callable → Except Fault (Entries String Hint)
  | .presented as f selfHint => (as.present f selfHint).function.table Γ
  | .partialOf _ _ => .ok []
  | .cls name =>
    resolveEach (Hint.resolveAnnotation Γ)
      ((Γ.declsOf (.declared name)).reverse.flatMap (·.annotations))

/-- The parameters that carry directives, in order. All hints are resolved first; the first that
fails is what the callable fails with. -/
def directives (Γ : Classes) (c : Callable) : Except Fault (Entries String Directive) := do
  let resolved ← c.table Γ
  return marked (Entries.putAll [] resolved) (c.declared Γ)

end Callable
end Carryover
