import Carryover.Field.Registry
import Carryover.Proofs.Entries
import Carryover.Proofs.Operation

/-!
# Looking up the fields of classes

What a session gives for the fields of a class is kept or found anew, and it does not depend on
which lookups were made before: a session agrees with the sessions after lookups
(`perform_contextFields`).
-/

namespace Carryover
namespace Session

/-- The fields that a session gives for a class. -/
def fieldsOf? (s : Session) (c : ClassName) : Except Failure (List Field) :=
  match if s.caching then Entries.get? s.cache c else none with
  | some fields => .ok fields
  | none => s.computeFields c

/-- Whether two sessions have the same classes and give the same fields for each. -/
structure Agrees (s t : Session) : Prop where
  classes : t.classes = s.classes
  fields : ∀ c, t.fieldsOf? c = s.fieldsOf? c

variable {s t u : Session}

@[refl] theorem Agrees.refl (s : Session) : s.Agrees s :=
  ⟨rfl, fun _ => rfl⟩

/-- Sessions that agree with one session agree. -/
theorem Agrees.trans (h : s.Agrees t) (h' : t.Agrees u) : s.Agrees u :=
  ⟨h'.classes.trans h.classes, fun c => (h'.fields c).trans (h.fields c)⟩

/-- An entry in the log does not matter. -/
theorem agrees_log (s : Session) (log : List LogEntry) : s.Agrees { s with log := log } :=
  ⟨rfl, fun _ => rfl⟩

/-- Keeping the fields that were found does not matter. -/
theorem agrees_cache {s : Session} {c : ClassName} {fields : List Field}
    (h : s.fieldsOf? c = .ok fields) :
    s.Agrees { s with cache := Entries.put s.cache c fields } := by
  refine ⟨rfl, fun c' => ?_⟩
  unfold fieldsOf?
  dsimp only
  by_cases hcache : s.caching = true
  · rw [if_pos hcache, if_pos hcache, Entries.get?_put]
    by_cases hc : c = c'
    · subst hc
      rw [fieldsOf?, if_pos hcache] at h
      rw [if_pos rfl, h]
    · rw [if_neg hc]
      rfl
  · rw [if_neg hcache, if_neg hcache]
    rfl

end Session

/-- A lookup gives the fields of the session, and keeps fields that it found anew. -/
theorem perform_contextFields_cases (c : ClassName) (s : Session) :
    ∃ t, perform (contextFields c) s = (s.fieldsOf? c, t) ∧
      (t = s ∨ ∃ fields log, s.fieldsOf? c = .ok fields ∧ s.computeFields c = .ok fields ∧
        t = { s with cache := Entries.put s.cache c fields, log := log }) := by
  unfold contextFields
  simp only [perform_bind, perform_get]
  cases hget : if s.caching then Entries.get? s.cache c else none with
  | some fields => exact ⟨s, by simp [Session.fieldsOf?, hget], .inl rfl⟩
  | none =>
    have hf : s.fieldsOf? c = s.computeFields c := by simp [Session.fieldsOf?, hget]
    simp only [perform_bind, perform_liftExcept, hf]
    cases hfound : s.computeFields c with
    | error e => exact ⟨s, rfl, .inl rfl⟩
    | ok fields =>
      dsimp only
      split_ifs
      · exact ⟨_, rfl, .inr ⟨fields, _, rfl, rfl, rfl⟩⟩
      · exact ⟨s, rfl, .inl rfl⟩

/-- **A lookup gives the fields of the session**, and the session after it agrees with the one
before. -/
theorem perform_contextFields (c : ClassName) (s : Session) :
    ∃ t, perform (contextFields c) s = (s.fieldsOf? c, t) ∧ s.Agrees t := by
  obtain ⟨t, ht, rfl | ⟨fields, log, hfields, -, rfl⟩⟩ := perform_contextFields_cases c s
  · exact ⟨t, ht, .refl t⟩
  · exact ⟨_, ht, (Session.agrees_cache hfields).trans (Session.agrees_log _ log)⟩

/-! ### Fields that are kept -/

namespace Session

/-- Whether the fields that are kept for a class are those that would be found anew. -/
def Coherent (s : Session) : Prop :=
  ∀ c fields, Entries.get? s.cache c = some fields → s.computeFields c = .ok fields

/-- A coherent session gives for a class the fields that it would find anew. -/
theorem Coherent.fieldsOf?_eq {s : Session} (h : s.Coherent) (c : ClassName) :
    s.fieldsOf? c = s.computeFields c := by
  unfold fieldsOf?
  split
  · rename_i fields hget
    split_ifs at hget
    exact (h c fields hget).symm
  · rfl

/-- A lookup in a coherent session comes to what it would if no fields were kept. -/
theorem Coherent.fst_perform_contextFields {s : Session} (h : s.Coherent) (c : ClassName) :
    (perform (contextFields c) s).1 = s.computeFields c := by
  obtain ⟨t, ht, -⟩ := perform_contextFields c s
  rw [ht]
  exact h.fieldsOf?_eq c

/-- A session that keeps no fields is coherent. -/
theorem coherent_of_cache_nil {s : Session} (h : s.cache = []) : s.Coherent := by
  intro c fields hget
  rw [h] at hget
  cases hget

end Session

end Carryover
