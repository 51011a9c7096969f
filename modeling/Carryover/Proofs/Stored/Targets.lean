import Carryover.Proofs.Stored.Failures

/-!
# Targets that can carry no value

Nothing can be read into the absence of a type, into a type without values, or into an object in
the place of a type. A read refuses such a target before it looks at the stored value if the target
is one that it knows; of the other objects it finds out late that they are no types
(`refusesTarget_iff`).

| target | a stored null | any other value |
| --- | --- | --- |
| nothing, the class of it, a type without values | refused | refused |
| a text, a forward reference, a type variable | refused | refused |
| another object | read as itself | a failed conversion |
-/

namespace Carryover
namespace Hint

/-- Whether a target can carry no value: it stands for nothing, has no values, or is an object in
the place of a type. -/
def carriesNothing : Hint → Bool
  | .nothing | .cls (.builtin .noneType) | .noReturn | .never => true
  | .textObject _ | .forwardRef _ | .typeVar _ | .object _ => true
  | _ => false

/-- Whether a target is an object in the place of a type, and neither a text nor the object that
stands for nothing. -/
def isForeign : Hint → Bool
  | .object .null => false
  | .object w => w.asText?.isNone
  | _ => false

end Hint

/-- Whether a read refuses its target: it fails because of the type, and leaves the session as it
is. -/
def RefusesTarget (key : String) (v : Value) (target : Hint) (s : Session) : Prop :=
  ∃ e, perform (decode key v target) s = (.error e, s) ∧ e.isA .badType = true

variable {Γ : Classes} {s : Session} {target : Hint}

/-- Of the objects in the place of a type, nothing apart, only the texts are known to be none. -/
theorem checkTarget_object {w : Value} (hw : w ≠ .null) :
    Γ.checkTarget (.object w) =
      if w.asText?.isSome then .error (.unresolvedTarget ((Hint.object w).render Γ))
      else .ok () := by
  unfold Classes.checkTarget
  split <;> simp_all

/-- A foreign target is an object that is no type, neither absent nor a text. -/
theorem exists_object_of_isForeign (h : target.isForeign = true) :
    ∃ w, target = .object w ∧ w ≠ .null ∧ w.asText? = none := by
  unfold Hint.isForeign at h
  split at h
  · cases h
  · rename_i w hw
    exact ⟨w, rfl, hw, Option.isNone_iff_eq_none.mp h⟩
  · cases h

/-- A foreign target is not refused. -/
theorem checkTarget_of_isForeign (h : target.isForeign = true) : Γ.checkTarget target = .ok () := by
  obtain ⟨w, rfl, hnull, htext⟩ := exists_object_of_isForeign h
  simp [checkTarget_object hnull, htext]

/-- The targets that are known to carry no value are refused, whatever is stored. -/
theorem checkTarget_of_carriesNothing (h : target.carriesNothing = true)
    (hknown : target.isForeign = false) :
    ∃ e, Γ.checkTarget target = .error e ∧ e.isA .badType = true := by
  cases target with
  | cls c =>
    unfold Hint.carriesNothing at h
    split at h
    case h_2 heq => exact ⟨_, by rw [heq]; rfl, rfl⟩
    all_goals simp_all
  | object w =>
    by_cases hw : w = .null
    · subst hw
      exact ⟨_, rfl, rfl⟩
    · have htext : w.asText?.isSome = true := by
        unfold Hint.isForeign at hknown
        split at hknown <;> simp_all [Option.isSome_iff_ne_none]
      exact ⟨_, by rw [checkTarget_object hw, if_pos htext], rfl⟩
  | nothing | noReturn | never | textObject | forwardRef | typeVar => exact ⟨_, rfl, rfl⟩
  | _ => cases h

/-- Nothing can be read into an object: there is no schema for it, or it has no place among the
types that are kept. -/
theorem unreadable?_object (w : Value) :
    (Hint.object w).unreadable? Γ = some .noSchema ∨
      ∃ kind, (Hint.object w).unreadable? Γ = some (.unhashable kind) := by
  cases hw : w.isHashable Γ with
  | true => exact .inl (by simp [Hint.unreadable?, hw])
  | false => exact .inr ⟨w.classOf.short, by simp [Hint.unreadable?, hw]⟩

/-- A read of a text into an object fails as a conversion does, and keeps no type. -/
theorem perform_readText_object (w : Value) (text : String) (s : Session) :
    ∃ e, perform (readText (.object w) text) s = (.error e, s) ∧ e.isConverted = true := by
  have hΓ : perform Run.classes s = (.ok s.classes, s) := rfl
  rw [readText, perform_bind, hΓ]
  dsimp only
  obtain h | ⟨kind, h⟩ := unreadable?_object (Γ := s.classes) w
  · exact ⟨_, by rw [h]; rfl, rfl⟩
  · exact ⟨_, by rw [h]; rfl, rfl⟩

/-- **An object in the place of a type is not refused at once**: a stored null is read as itself,
and any other value fails to be converted. -/
theorem perform_decode_of_isForeign (h : target.isForeign = true) (key : String) (v : Value)
    (s : Session) :
    (v = .null ∧ perform (decode key v target) s = (.ok .null, s)) ∨
      ∃ cause, perform (decode key v target) s =
        (.error (.conversion key v.classOf.qualified (target.render s.classes) cause), s) := by
  have hcheck := checkTarget_of_isForeign (Γ := s.classes) h
  by_cases hv : v = .null
  · refine .inl ⟨hv, ?_⟩
    rw [hv, perform_decode_null, hcheck]
    rfl
  obtain ⟨w, rfl, -⟩ := exists_object_of_isForeign h
  have halready : s.classes.isAlready v (.object w) = false := rfl
  obtain ⟨e, hfails, he⟩ : ∃ e, perform (liftExcept (s.classes.storedText v) >>=
      readText (.object w)) s = (.error e, s) ∧ e.isConverted = true := by
    rw [perform_bind, perform_liftExcept]
    cases hstored : s.classes.storedText v with
    | error e => exact ⟨e, rfl, by rw [storedText_error hstored]; rfl⟩
    | ok text => exact perform_readText_object w text s
  refine .inr ⟨e, ?_⟩
  rw [perform_decode hv, hcheck]
  simp only [halready, Hint.isText, Bool.false_eq_true, if_false]
  rw [hfails, Except.mapError, Classes.readFailure, if_pos he]

/-- **A target that can carry no value is refused exactly if it is no other object** than those that
are known: with such an object no read is refused, whatever is stored. -/
theorem refusesTarget_iff (h : target.carriesNothing = true) (key : String) (v : Value)
    (s : Session) : RefusesTarget key v target s ↔ target.isForeign = false := by
  constructor
  · rintro ⟨e, he, hclass⟩
    cases hforeign : target.isForeign with
    | false => rfl
    | true =>
      obtain ⟨-, hnull⟩ | ⟨cause, hfails⟩ := perform_decode_of_isForeign hforeign key v s
      · rw [hnull] at he
        cases he
      · rw [hfails] at he
        cases he
        cases hclass
  · intro hknown
    obtain ⟨e, hcheck, hclass⟩ := checkTarget_of_carriesNothing (Γ := s.classes) h hknown
    refine ⟨e, ?_, hclass⟩
    by_cases hv : v = .null
    · rw [hv, perform_decode_null, hcheck]
      rfl
    · rw [perform_decode hv, hcheck]

/-- A type variable is refused, also where a null is stored. -/
theorem refusesTarget_iff_typeVar :
    (Hint.typeVar "T").carriesNothing = true ∧
      RefusesTarget "k" .null (.typeVar "T") (.start {}) :=
  ⟨rfl, (refusesTarget_iff rfl "k" .null (.start {})).mpr rfl⟩

/-- Not every target that can carry no value is refused: a stored null is read as a number that
stands in the place of a type. -/
theorem not_refusesTarget :
    ¬ ∀ (key : String) (v : Value) (target : Hint) (s : Session), target.carriesNothing = true →
      RefusesTarget key v target s := by
  intro h
  obtain ⟨e, he, -⟩ := h "k" .null (.object (.int 42)) (.start {}) rfl
  cases he

end Carryover
