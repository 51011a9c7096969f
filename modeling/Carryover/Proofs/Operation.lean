import Carryover.Entries

/-!
# Operations step by step

An operation that may fail and has a state comes, in a state, to a result and the state after
it. What it comes to follows from what its parts come to: a failure ends a sequence and keeps
what was done before it, and a handler goes on from there.
-/

namespace Carryover

variable {ε σ α β : Type}

/-- What comes of a map is the image of what was given. -/
theorem exists_of_map_eq_ok {f : α → β} {x : Except ε α} {b : β} (h : x.map f = .ok b) :
    ∃ a, x = .ok a ∧ f a = b := by
  cases x with
  | error e => cases h
  | ok a => exact ⟨a, rfl, Except.ok.inj h⟩

/-- To rephrase failures keeps what is given. -/
theorem mapError_eq_ok {ε' : Type} {x : Except ε α} {f : ε → ε'} {a : α} :
    x.mapError f = .ok a ↔ x = .ok a := by
  cases x with
  | error e => exact iff_of_false (fun h => by cases h) fun h => by cases h
  | ok b => exact ⟨fun h => congrArg _ (Except.ok.inj h), fun h => congrArg _ (Except.ok.inj h)⟩

/-- What an operation comes to when it is performed in a state, and the state after it. -/
def perform (x : ExceptT ε (StateM σ) α) (s : σ) : Except ε α × σ :=
  x.run s

@[simp] theorem perform_pure (a : α) (s : σ) :
    perform (pure a : ExceptT ε (StateM σ) α) s = (.ok a, s) := rfl

@[simp] theorem perform_throw (e : ε) (s : σ) :
    perform (throw e : ExceptT ε (StateM σ) α) s = (.error e, s) := rfl

@[simp] theorem perform_get (s : σ) :
    perform (get : ExceptT ε (StateM σ) σ) s = (.ok s, s) := rfl

@[simp] theorem perform_set (t s : σ) :
    perform (set t : ExceptT ε (StateM σ) PUnit) s = (.ok ⟨⟩, t) := rfl

@[simp] theorem perform_modify (f : σ → σ) (s : σ) :
    perform (modify f : ExceptT ε (StateM σ) PUnit) s = (.ok ⟨⟩, f s) := rfl

@[simp] theorem perform_liftExcept (x : Except ε α) (s : σ) :
    perform (liftExcept x : ExceptT ε (StateM σ) α) s = (x, s) := by
  cases x <;> rfl

/-- A sequence goes on with what its first part gives, or fails with it. -/
theorem perform_bind (x : ExceptT ε (StateM σ) α) (f : α → ExceptT ε (StateM σ) β) (s : σ) :
    perform (x >>= f) s =
      match perform x s with
      | (.ok a, t) => perform (f a) t
      | (.error e, t) => (.error e, t) := by
  simp only [perform, bind, ExceptT.bind, ExceptT.mk, ExceptT.run, StateT.bind, ExceptT.bindCont]
  rcases x s with ⟨_ | a, t⟩ <;> rfl

/-- What is made of a result is made after the operation, and changes nothing more. -/
theorem perform_map (f : α → β) (x : ExceptT ε (StateM σ) α) (s : σ) :
    perform (f <$> x) s = ((perform x s).1.map f, (perform x s).2) := by
  simp only [perform, Functor.map, ExceptT.map, ExceptT.mk, ExceptT.run, bind, StateT.bind]
  rcases x s with ⟨_ | a, t⟩ <;> rfl

/-- To drop what an operation gives changes nothing in the state after it. -/
theorem snd_perform_discard (x : ExceptT ε (StateM σ) α) (s : σ) :
    (perform (discard x) s).2 = (perform x s).2 :=
  congrArg Prod.snd (perform_map _ x s)

/-- A handler goes on from the state in which the failure happened. -/
theorem perform_tryCatch (x : ExceptT ε (StateM σ) α) (h : ε → ExceptT ε (StateM σ) α) (s : σ) :
    perform (tryCatch x h) s =
      match perform x s with
      | (.ok a, t) => (.ok a, t)
      | (.error e, t) => perform (h e) t := by
  simp only [perform, tryCatch, tryCatchThe, MonadExceptOf.tryCatch, ExceptT.tryCatch, ExceptT.mk,
    ExceptT.run, bind, StateT.bind]
  rcases x s with ⟨_ | a, t⟩ <;> rfl

/-- A sequence succeeds exactly if its parts do, one after the other. -/
theorem perform_bind_eq_ok {x : ExceptT ε (StateM σ) α} {f : α → ExceptT ε (StateM σ) β}
    {s t : σ} {b : β} :
    perform (x >>= f) s = (.ok b, t) ↔
      ∃ a u, perform x s = (.ok a, u) ∧ perform (f a) u = (.ok b, t) := by
  rw [perform_bind]
  rcases perform x s with ⟨_ | a, u⟩
  · simp
  · constructor
    · intro h
      exact ⟨a, u, rfl, h⟩
    · rintro ⟨_, _, h, h'⟩
      cases h
      exact h'

end Carryover
