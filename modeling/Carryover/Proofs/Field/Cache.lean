import Carryover.Proofs.Extract.Writes
import Mathlib.Data.List.Induction

/-!
# Fields that are kept

Fields that were found are kept until directives are registered. Lookups, extractions and
registrations come in any order, some of them fail, and keeping is switched on and off between
them. Through all of that the fields kept for a class are the ones that would be found anew, so
that nobody can tell whether fields are kept (`upToDate_after`).

| step | fields kept | directives registered |
| --- | --- | --- |
| a lookup, an extraction | fields found anew may be added | the same |
| a registration | none | more |
| a step that is refused | the same | the same |
-/

namespace Carryover

open Entries

/-! ### What lookups leave -/

namespace Session

/-- What lookups leave of a session: the classes and the registered directives are the same, and
fields that are kept besides those from before are the ones found for their class. -/
structure LooksUp (s t : Session) : Prop where
  classes : t.classes = s.classes
  registered : t.registered = s.registered
  kept : ∀ e ∈ t.cache, e ∈ s.cache ∨ s.computeFields e.1 = .ok e.2

variable {s t u : Session}

@[refl] theorem LooksUp.refl (s : Session) : s.LooksUp s :=
  ⟨rfl, rfl, fun _ he => .inl he⟩

/-- The fields of a class follow from the classes and the registered directives. -/
theorem LooksUp.computeFields_eq (h : s.LooksUp t) (c : ClassName) :
    t.computeFields c = s.computeFields c := by
  obtain ⟨classes, registered, cache, caching, adapters, log⟩ := t
  obtain ⟨rfl, rfl, -⟩ := h
  rfl

/-- What two lookups leave is what lookups leave. -/
theorem LooksUp.trans (h : s.LooksUp t) (h' : t.LooksUp u) : s.LooksUp u := by
  refine ⟨h'.classes.trans h.classes, h'.registered.trans h.registered, fun e he => ?_⟩
  obtain he | he := h'.kept e he
  · exact h.kept e he
  · exact .inr ((h.computeFields_eq e.1).symm.trans he)

/-- The log is nothing that lookups have to keep. -/
theorem looksUp_log (s : Session) (log : List LogEntry) : s.LooksUp { s with log := log } :=
  ⟨rfl, rfl, fun _ he => .inl he⟩

end Session

/-- Whether an operation does to a session what lookups do, also if it fails. -/
def OnlyLooksUp {α : Type} (x : Run α) : Prop :=
  ∀ s : Session, s.LooksUp (perform x s).2

/-- Finding the fields of a class is a lookup. -/
theorem onlyLooksUp_contextFields (c : ClassName) : OnlyLooksUp (contextFields c) := by
  intro s
  obtain ⟨t, ht, rfl | ⟨fields, log, -, hfound, rfl⟩⟩ := perform_contextFields_cases c s
  · rw [ht]
  · rw [ht]
    refine ⟨rfl, rfl, fun e he => ?_⟩
    obtain rfl | he := mem_put he
    · exact .inr hfound
    · exact .inl he

/-- The relations between the session before and the session after that hold of every operation
which looks fields up and does nothing else but add to the log. -/
structure LookupRelation (R : Session → Session → Prop) : Prop where
  refl : ∀ s, R s s
  trans : ∀ {s t u}, R s t → R t u → R s u
  log : ∀ s log, R s { s with log := log }
  fields : ∀ c s, R s (perform (contextFields c) s).2

theorem lookupRelation_looksUp : LookupRelation Session.LooksUp :=
  ⟨.refl, .trans, Session.looksUp_log, onlyLooksUp_contextFields⟩

variable {extract : Value → Run Context}

namespace LookupRelation

variable {R : Session → Session → Prop}

/-- Placing fields does no more than lookups, if extracting what they hold does not. -/
theorem placeFields (hR : LookupRelation R) (he : ∀ v s, R s (perform (extract v) s).2)
    (target : Value) (fields : List Field) (c : Context) (s : Session) :
    R s (perform (placeFields extract target fields c) s).2 := by
  induction fields generalizing c s with
  | nil => exact hR.refl s
  | cons f fields ih =>
    obtain ⟨log, hcons⟩ := perform_placeFields_cons extract target f fields c s
    have hlog : R s { s with log := log } := hR.log s log
    generalize { s with log := log } = t at hcons hlog
    rw [hcons]
    rcases s.classes.attribute? target f.attr with fault | _ | v
    · exact hR.refl s
    · exact hR.trans hlog (ih c t)
    · dsimp only
      rcases f.directive.take? v with fault | _ | w
      · exact hlog
      · exact hR.trans hlog (ih c t)
      · dsimp only
        split_ifs
        · have hw := hR.trans hlog (he w t)
          generalize perform (extract w) t = p at hw ⊢
          obtain ⟨e | inner, u⟩ := p
          · exact hw
          · exact hR.trans hw (ih _ u)
        · exact hR.trans hlog (ih _ t)

/-- Extracting an object does no more than lookups, if extracting what it holds does not. -/
theorem extractStep (hR : LookupRelation R) (he : ∀ v s, R s (perform (extract v) s).2)
    (target : Value) (s : Session) : R s (perform (extractStep extract target) s).2 := by
  by_cases hn : target = .null
  · subst hn
    exact hR.refl s
  · have hfields := hR.fields target.classOf s
    rw [perform_extractStep hn]
    generalize perform (contextFields target.classOf) s = p at hfields ⊢
    obtain ⟨e | fields, t⟩ := p
    · exact hfields
    · dsimp only
      split_ifs
      · exact hR.trans hfields (hR.log t _)
      · exact hR.trans hfields (hR.placeFields he target fields [] t)

/-- An extraction does no more than lookups. -/
theorem extractWithin (hR : LookupRelation R) (room : Nat) (target : Value) (s : Session) :
    R s (perform (extractWithin room target) s).2 := by
  induction room generalizing target s with
  | zero => exact hR.refl s
  | succ room ih => exact hR.extractStep ih target s

/-- An extraction looks fields up and adds to the log, also if it fails. -/
theorem extractContext (hR : LookupRelation R) (target : Value) (s : Session) :
    R s (perform (extractContext target) s).2 := by
  rw [perform_extractContext]
  exact hR.extractWithin _ target s

end LookupRelation

/-- An extraction does to a session what lookups do, also if it fails. -/
theorem onlyLooksUp_extractContext (target : Value) : OnlyLooksUp (extractContext target) :=
  lookupRelation_looksUp.extractContext target

theorem Session.Agrees.symm {s t : Session} (h : s.Agrees t) : t.Agrees s :=
  ⟨h.classes.symm, fun c => (h.fields c).symm⟩

/-- A registration is checked as a whole, and forgets the fields that are kept. -/
theorem perform_register (c : ClassName) (entries : List (String × Registration))
    (s : Session) :
    perform (register c entries) s =
      match checkRegistrations entries with
      | .error f => (.error f, s)
      | .ok ds =>
        (.ok (), { s with
          registered := put s.registered c (putAll ((get? s.registered c).getD []) ds)
          cache := [] }) := by
  rw [register, perform_bind, perform_liftExcept]
  cases checkRegistrations entries <;> rfl

/-- What callers do to the fields that are kept: they look fields up, extract contexts, register
directives, forget all fields, and switch keeping on or off. -/
inductive SessionStep where
  | look (c : ClassName)
  | extract (target : Value)
  | register (c : ClassName) (entries : List (String × Registration))
  | forget
  | keep (on : Bool)

/-- The operation in a session. -/
def SessionStep.run : SessionStep → Run Unit
  | .look c => discard (contextFields c)
  | .extract target => discard (extractContext target)
  | .register c entries => Carryover.register c entries
  | .forget => clearFields
  | .keep on => setCaching on

namespace Session

/-- The session after a run of steps; a step that fails does not end it. -/
def after (s : Session) (steps : List SessionStep) : Session :=
  steps.foldl (fun s step => (perform step.run s).2) s

/-- Whether each entry of the fields that are kept is what would be found anew. -/
def Fresh (s : Session) : Prop :=
  ∀ e ∈ s.cache, s.computeFields e.1 = .ok e.2

variable {s t : Session}

/-- Fields that are found anew are those of their class. -/
theorem Fresh.coherent (h : s.Fresh) : s.Coherent :=
  fun _ _ hget => h _ (mem_of_get? hget)

/-- Lookups keep only what they have found. -/
theorem LooksUp.fresh (h : s.LooksUp t) (hs : s.Fresh) : t.Fresh := by
  intro e he
  rw [h.computeFields_eq]
  exact (h.kept e he).elim (hs e) id

/-- A step leaves only fields that would be found anew, also if it fails. -/
theorem Fresh.step (h : s.Fresh) (step : SessionStep) : (perform step.run s).2.Fresh := by
  cases step with
  | look c =>
    rw [SessionStep.run, snd_perform_discard]
    exact (onlyLooksUp_contextFields c s).fresh h
  | extract target =>
    rw [SessionStep.run, snd_perform_discard]
    exact (onlyLooksUp_extractContext target s).fresh h
  | register c entries =>
    rw [SessionStep.run, perform_register]
    cases checkRegistrations entries with
    | error f => exact h
    | ok ds => exact fun e he => nomatch he
  | forget => exact fun e he => nomatch he
  | keep on => exact h

/-- After any steps, the fields that are kept are those that would be found anew. -/
theorem fresh_after (Γ : Classes) (steps : List SessionStep) : ((start Γ).after steps).Fresh := by
  induction steps using List.reverseRecOn with
  | nil => exact fun e he => nomatch he
  | append_singleton steps step ih =>
    rw [after, List.foldl_concat]
    exact ih.step step

/-- A step changes no class. -/
theorem classes_step (s : Session) (step : SessionStep) :
    (perform step.run s).2.classes = s.classes := by
  cases step with
  | look c => exact (snd_perform_discard _ s).symm ▸ (onlyLooksUp_contextFields c s).classes
  | extract v => exact (snd_perform_discard _ s).symm ▸ (onlyLooksUp_extractContext v s).classes
  | register c entries =>
    rw [SessionStep.run, perform_register]
    cases checkRegistrations entries <;> rfl
  | forget => rfl
  | keep on => rfl

/-- Several steps change no class. -/
theorem classes_after (s : Session) (steps : List SessionStep) :
    (s.after steps).classes = s.classes := by
  induction steps generalizing s with
  | nil => rfl
  | cons step steps ih => exact (ih _).trans (classes_step s step)

/-- A session whose kept fields would be found anew gives those fields. -/
theorem Fresh.fst_perform_contextFields (h : s.Fresh) (c : ClassName) :
    (perform (contextFields c) s).1 = s.computeFields c :=
  h.coherent.fst_perform_contextFields c

end Session
end Carryover
