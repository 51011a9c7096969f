import Carryover.Call.Callable
import Carryover.Proofs.Field.Hierarchy

/-!
# What hints are resolved to

A hint is resolved to a type or fails with a fault. The hints of a function are resolved one after
the other, that of what it returns last, and the first fault is that of the function
(`Signature.table_eq`).
-/

namespace Carryover

variable {Γ : Classes}

namespace Hint

/-- The fault that resolving a hint raises, if it raises one. -/
def unresolved? (Γ : Classes) (h : Hint) : Option Fault :=
  match h.resolve Γ with
  | .ok _ => none
  | .error fault => some fault

/-- The type that a hint is resolved to, or the hint where it fails. -/
def resolved (Γ : Classes) (h : Hint) : Hint :=
  match h.resolve Γ with
  | .ok m => m
  | .error _ => h

/-- A type resolves to its first failure, or to what it stands for if it has none. -/
theorem resolve_eq (Γ : Classes) (h : Hint) :
    h.resolve Γ = faultOr (h.unresolved? Γ) (h.resolved Γ) := by
  unfold unresolved? resolved
  cases h.resolve Γ <;> rfl

/-- A type that is resolved has no failure. -/
theorem unresolved?_of_eq_ok {h m : Hint} (hm : h.resolve Γ = .ok m) : h.unresolved? Γ = none := by
  rw [unresolved?, hm]

end Hint

/-- Hints are resolved up to the first that fails. -/
theorem resolveEach_eq (Γ : Classes) (hs : Entries String Hint) :
    resolveEach (Hint.resolve Γ) hs = faultOr (hs.findSome? fun e => e.2.unresolved? Γ)
      (hs.map fun (name, h) => (name, h.resolved Γ)) := by
  induction hs with
  | nil => rfl
  | cons e hs ih =>
    rw [resolveEach, Hint.resolve_eq, ih, List.findSome?_cons]
    cases e.2.unresolved? Γ with
    | some fault => rfl
    | none => cases hs.findSome? fun e => e.2.unresolved? Γ <;> rfl

namespace Signature

/-- The fault that resolving the hints of a function raises: that of the first that fails. -/
def unresolved? (Γ : Classes) (f : Signature) : Option Fault :=
  (f.hints.findSome? fun e => e.2.unresolved? Γ).or (f.returns.bind (Hint.unresolved? Γ))

/-- **The hints of a function are resolved up to the first that fails.** -/
theorem table_eq (Γ : Classes) (f : Signature) :
    f.table Γ = faultOr (f.unresolved? Γ)
      (f.hints.map fun (name, h) => (name, h.resolved Γ)) := by
  unfold table unresolved?
  rw [resolveEach_eq]
  cases f.hints.findSome? fun e => e.2.unresolved? Γ with
  | some fault => rfl
  | none =>
    cases hreturns : f.returns with
    | none => rfl
    | some h =>
      have hresolve := h.resolve_eq Γ
      simp only [Option.mapM_some, Option.bind_some, Option.none_or, hresolve]
      cases h.unresolved? Γ <;> rfl

end Signature
end Carryover
