import Carryover.Proofs.Context.Change
import Carryover.Proofs.Extract.Failing
import Carryover.Proofs.Field.Evaluation
import Carryover.Proofs.Stored.Failures

/-!
# Stray failures

Callers deal with most failures; a key that declared code misses, and a request to end the program,
are let out as they are. Any other failure is stray. The operations come upon stray failures at few
places.

| operation | stray failures |
| --- | --- |
| lookup of fields | the faults of annotations |
| extraction | what is no error: for a fault it has a failure of its own |
| writes under keys of their own | none |
| read of a stored value | those of reading its text, unless they are told of as a conversion |
-/

namespace Carryover

/-! ### Stray failures -/

/-- Whether no one tells of a failure: callers do not deal with it, and it is neither a missing key
nor a request to end the program. -/
def Failure.isStray (e : Failure) : Bool :=
  !(e.isTold || e.isA .missingEntry || e.isA .exit)

/-- A failure that is told is no stray one. -/
theorem Failure.isStray_eq_false_of_isTold {e : Failure} (h : e.isTold = true) :
    e.isStray = false := by
  simp [isStray, h]

/-- Whether a result, if it is a failure, is one that is told of. -/
def FailsTold {α : Type} (x : Except Failure α) : Prop :=
  ∀ e, x = .error e → e.isTold = true

namespace FailsTold

variable {α β : Type} {x : Except Failure α} {f : α → Except Failure β}

/-- A result is no failure. -/
theorem ok (a : α) : FailsTold (.ok a : Except Failure α) :=
  fun _ h => nomatch h

/-- A failure that is told is one. -/
theorem error {e : Failure} (h : e.isTold = true) : FailsTold (.error e : Except Failure α) := by
  rintro _ ⟨⟩
  exact h

/-- If two operations fail by what is told alone, so does one after the other. -/
theorem bind (hx : FailsTold x) (hf : ∀ a, FailsTold (f a)) : FailsTold (x >>= f) := by
  cases x with
  | error e => exact error (hx e rfl)
  | ok a => exact hf a

/-- What fails by what is told alone does not stray. -/
theorem not_stray (hx : FailsTold x) : ¬ ∃ e, x = .error e ∧ e.isStray = true := by
  rintro ⟨e, he, hstray⟩
  rw [Failure.isStray_eq_false_of_isTold (hx e he)] at hstray
  cases hstray

end FailsTold

/-- Whether an operation fails with a stray failure. -/
def Strays {α : Type} (x : Run α) (s : Session) : Prop :=
  ∃ e, (perform x s).1 = .error e ∧ e.isStray = true

section Strays

variable {α β : Type} {s : Session}

@[simp] theorem strays_liftExcept {x : Except Failure α} :
    Strays (liftExcept x : Run α) s ↔ ∃ e, x = .error e ∧ e.isStray = true := by
  simp [Strays]

/-- A sequence fails with a stray failure if a part of it does. -/
theorem strays_bind {x : Run α} {f : α → Run β} :
    Strays (x >>= f) s ↔ Strays x s ∨ ∃ a t, perform x s = (.ok a, t) ∧ Strays (f a) t := by
  unfold Strays
  rw [perform_bind]
  rcases perform x s with ⟨e | a, t⟩
  · simp
  · constructor
    · exact fun h => .inr ⟨a, t, rfl, h⟩
    · rintro (⟨e, h, -⟩ | ⟨a, t, h, hstray⟩)
      · cases h
      · cases h
        exact hstray

/-- A sequence that begins with a result goes on from there. -/
theorem strays_liftExcept_bind {x : Except Failure α} {f : α → Run β} :
    Strays (liftExcept x >>= f) s ↔
      (∃ e, x = .error e ∧ e.isStray = true) ∨ ∃ a, x = .ok a ∧ Strays (f a) s := by
  rw [strays_bind, strays_liftExcept, perform_liftExcept]
  refine or_congr Iff.rfl ⟨?_, ?_⟩
  · rintro ⟨a, t, h, hstray⟩
    cases h
    exact ⟨a, rfl, hstray⟩
  · rintro ⟨a, rfl, hstray⟩
    exact ⟨a, s, rfl, hstray⟩

/-- A sequence does not stray at a result whose failures are told of. -/
theorem FailsTold.strays_bind {x : Except Failure α} {f : α → Run β} (hx : FailsTold x) :
    Strays (liftExcept x >>= f) s ↔ ∃ a, x = .ok a ∧ Strays (f a) s :=
  strays_liftExcept_bind.trans (or_iff_right hx.not_stray)

end Strays

/-! ### Fields -/

end Carryover
