import Carryover.Action.Basic
import Carryover.Proofs.Context.Change
import Mathlib.Data.List.Induction

/-!
# Updates of an action

An update writes one value or several values to the context of an action. It may fail, and what
was written before it failed stays; a run of updates goes on after one that fails.
-/

namespace Carryover
namespace Action

/-- A write to the context of an action. -/
inductive Update where
  | one (key : String) (v : Value)
  | many (entries : List (String × Value))

namespace Update

/-- The values that an update writes, by key. -/
def entries : Update → List (String × Value)
  | .one key v => [(key, v)]
  | .many es => es

/-- The operation on an action. -/
def step (Γ : Classes) : Update → Step Bool
  | .one key v => add Γ key v
  | .many es => addAll Γ es

/-- The operation on its context. -/
def toContext (Γ : Classes) : Update → Write Bool
  | .one key v => mergeOne Γ key v
  | .many es => mergeMany Γ es

end Update

/-- What an update comes to, and the action after it. -/
def update (Γ : Classes) (a : Action) (u : Update) : Except Failure Bool × Action :=
  perform (u.step Γ) a

/-- The action after a run of updates. -/
def updates (Γ : Classes) (a : Action) (us : List Update) : Action :=
  us.foldl (fun a u => (a.update Γ u).2) a

variable {Γ : Classes}

/-- An update writes to the context, and a change is kept in mind if it comes to its end. -/
theorem update_eq (a : Action) (u : Update) :
    a.update Γ u =
      match perform (u.toContext Γ) a.context with
      | (.ok changed, c) => (.ok changed, { a with context := c, updated := a.updated || changed })
      | (.error f, c) => (.error f, { a with context := c }) := by
  have h (w : Write Bool) : perform (write w) a =
      match perform w a.context with
      | (.ok changed, c) => (.ok changed, { a with context := c, updated := a.updated || changed })
      | (.error f, c) => (.error f, { a with context := c }) := by
    rw [write, perform_bind, perform_get]
    change perform (match perform w a.context with | (.ok _, _) => _ | (.error _, _) => _) a = _
    rcases perform w a.context with ⟨_ | changed, c⟩ <;> rfl
  cases u <;> exact h _

/-- An update does to the context what it does to the context alone. -/
theorem context_update (a : Action) (u : Update) :
    (a.update Γ u).2.context = (perform (u.toContext Γ) a.context).2 := by
  rw [update_eq]
  rcases perform (u.toContext Γ) a.context with ⟨_ | changed, c⟩ <;> rfl

@[simp] theorem updates_nil (a : Action) : a.updates Γ [] = a := rfl

/-- The last of several updates is made after the others. -/
theorem updates_concat (a : Action) (us : List Update) (u : Update) :
    a.updates Γ (us ++ [u]) = ((a.updates Γ us).update Γ u).2 := by
  simp [updates]

/-- A change that is kept in mind is not forgotten. -/
theorem updated_update {a : Action} (h : a.updated = true) (u : Update) :
    (a.update Γ u).2.updated = true := by
  rw [update_eq]
  rcases perform (u.toContext Γ) a.context with ⟨_ | changed, c⟩ <;> simp [h]

/-- An update of values of the program only adds such values. -/
theorem grows_toContext {u : Update} (hu : ∀ x ∈ u.entries, Γ.Admits x.2) (c : Context) :
    c.Grows Γ (perform (u.toContext Γ) c).2 := by
  cases u with
  | one key v => exact grows_mergeOne (hu (key, v) List.mem_cons_self) key c
  | many es => exact grows_mergeMany hu c

/-- An update without NaN brings none into the context. -/
theorem noNan_toContext {c : Context} {u : Update} (hu : ∀ x ∈ u.entries, x.2.isNan = false)
    (hc : c.NoNan) : (perform (u.toContext Γ) c).2.NoNan := by
  cases u with
  | one key v => exact hc.mergeOne (hu (key, v) List.mem_cons_self) key
  | many es => exact hc.mergeMany hu

/-- No key goes by a run of updates, and every value is the one from before or was stored. -/
theorem grows_updates {us : List Update} (hus : ∀ u ∈ us, ∀ x ∈ u.entries, Γ.Admits x.2)
    (a : Action) : a.context.Grows Γ (a.updates Γ us).context := by
  induction us using List.reverseRecOn with
  | nil => exact .refl _
  | append_singleton us u ih =>
    rw [updates_concat, context_update]
    exact (ih fun u hu => hus u (List.mem_append_left _ hu)).trans
      (grows_toContext (hus u (by simp)) _)

/-- Updates without NaN bring none into the context. -/
theorem noNan_updates {a : Action} {us : List Update}
    (hus : ∀ u ∈ us, ∀ x ∈ u.entries, x.2.isNan = false) (ha : a.context.NoNan) :
    (a.updates Γ us).context.NoNan := by
  induction us using List.reverseRecOn with
  | nil => exact ha
  | append_singleton us u ih =>
    rw [updates_concat, context_update]
    exact noNan_toContext (hus u (by simp)) (ih fun u hu => hus u (List.mem_append_left _ hu))

end Action
end Carryover
