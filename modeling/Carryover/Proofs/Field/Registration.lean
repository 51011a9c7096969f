import Carryover.Proofs.Field.Cache
import Carryover.Proofs.Field.Hierarchy

/-!
# Registered directives

Directives are registered for a class by one call after the other. A call with anything else among
its entries is refused as a whole, because all entries are checked before the first is written. The
mappings that are accepted are written one over the other (`getD_registered_after`), and the fields
of all classes follow from what that comes to for each class (`Session.computeFields_congr`). How
the directives came to be registered cannot be told from the fields (`followsRegistrations`):

| run | the same fields as |
| --- | --- |
| calls on several classes | the calls in any order that keeps the order on each class |
| accepted calls on one class | one call with the merged mapping |
| a call that is refused | no call |
-/

namespace Carryover

open Entries

/-! ### One call -/

/-- A call with directives alone. -/
def registering (c : ClassName) (ds : Entries String Directive) : SessionStep :=
  .register c (ds.map fun (name, d) => (name, .directive d))

/-- Entries are accepted if they are directives, all of them. -/
theorem checkRegistrations_eq_ok_iff {entries : List (String × Registration)}
    {ds : Entries String Directive} :
    checkRegistrations entries = .ok ds ↔
      entries = ds.map fun (name, d) => (name, .directive d) := by
  induction entries generalizing ds with
  | nil =>
    constructor
    · intro h
      obtain rfl := Except.ok.inj h
      rfl
    · intro h
      obtain rfl := List.map_eq_nil_iff.mp h.symm
      rfl
  | cons e rest ih =>
    obtain ⟨name, d | v⟩ := e
    · rw [checkRegistrations]
      constructor
      · intro h
        cases hrest : checkRegistrations rest with
        | error f =>
          rw [hrest] at h
          cases h
        | ok ds' =>
          rw [hrest] at h
          obtain rfl := Except.ok.inj h
          rw [ih.mp hrest]
          rfl
      · intro h
        obtain ⟨⟨name', d'⟩, ds', rfl, he, hrest⟩ := List.map_eq_cons_iff.mp h.symm
        obtain ⟨rfl, hd⟩ := Prod.mk.inj he
        obtain rfl := Registration.directive.inj hd
        rw [ih.mpr hrest.symm]
        rfl
    · constructor
      · intro h
        cases h
      · intro h
        obtain ⟨⟨name', d⟩, ds', -, he, -⟩ := List.map_eq_cons_iff.mp h.symm
        cases (Prod.mk.inj he).2

/-- Entries are refused if anything else stands among them, wherever it stands. -/
theorem exists_checkRegistrations_eq_error {entries : List (String × Registration)}
    {name : String} {v : Value} (h : (name, .other v) ∈ entries) :
    ∃ f, checkRegistrations entries = .error f := by
  cases hc : checkRegistrations entries with
  | error f => exact ⟨f, rfl⟩
  | ok ds =>
    rw [checkRegistrations_eq_ok_iff.mp hc] at h
    obtain ⟨e, -, he⟩ := List.mem_map.mp h
    cases (Prod.mk.inj he).2

/-! ### The calls of a run -/

/-- The entries of a step that is a call on a class. -/
def SessionStep.entriesFor? (c : ClassName) : SessionStep → Option (List (String × Registration))
  | .register k entries => if k = c then some entries else none
  | _ => none

/-- The calls on a class, in order. -/
def callsOn (steps : List SessionStep) (c : ClassName) : List (List (String × Registration)) :=
  steps.filterMap (·.entriesFor? c)

/-- The mappings that calls on a class register, in order. -/
def accepted (steps : List SessionStep) (c : ClassName) : List (Entries String Directive) :=
  (callsOn steps c).filterMap fun entries => (checkRegistrations entries).toOption

/-- The mappings that calls on a class register, written one over the other. -/
def overwritten (steps : List SessionStep) (c : ClassName) : Entries String Directive :=
  (accepted steps c).foldl putAll []

variable {steps : List SessionStep} {c k : ClassName}

@[simp] theorem accepted_nil (c : ClassName) : accepted [] c = [] := rfl

/-- The registrations that are accepted of some steps and of later ones are those of all. -/
theorem accepted_append (before after : List SessionStep) (c : ClassName) :
    accepted (before ++ after) c = accepted before c ++ accepted after c := by
  rw [accepted, callsOn, List.filterMap_append, List.filterMap_append]
  rfl

/-- A registration of directives is accepted. -/
theorem accepted_registering_cons (c k : ClassName) (ds : Entries String Directive)
    (steps : List SessionStep) :
    accepted (registering k ds :: steps) c =
      if k = c then ds :: accepted steps c else accepted steps c := by
  have hok : checkRegistrations (ds.map fun (name, d) => (name, .directive d)) = .ok ds :=
    checkRegistrations_eq_ok_iff.mpr rfl
  by_cases hk : k = c
  · simp [accepted, callsOn, registering, SessionStep.entriesFor?, hk, hok, Except.toOption]
  · simp [accepted, callsOn, registering, SessionStep.entriesFor?, hk]

/-- The mappings of calls that are all accepted, and all on one class. -/
theorem accepted_map_registering (c k : ClassName) (parts : List (Entries String Directive)) :
    accepted (parts.map (registering k)) c = if k = c then parts else [] := by
  induction parts with
  | nil => simp
  | cons part parts ih =>
    rw [List.map_cons, accepted_registering_cons, ih]
    split_ifs <;> rfl

/-- Of a registration that is refused nothing is accepted. -/
theorem accepted_refused {entries : List (String × Registration)} {f : Failure}
    (h : checkRegistrations entries = .error f) (c k : ClassName) :
    accepted [.register k entries] c = [] := by
  by_cases hk : k = c
  · simp [accepted, callsOn, SessionStep.entriesFor?, hk, h, Except.toOption]
  · simp [accepted, callsOn, SessionStep.entriesFor?, hk]

/-- Mappings in the middle of a run that come to the same have the same outcome. -/
theorem overwritten_congr_middle {middle middle' : List SessionStep}
    (h : ∀ es, (accepted middle c).foldl putAll es = (accepted middle' c).foldl putAll es)
    (before after : List SessionStep) :
    overwritten (before ++ middle ++ after) c = overwritten (before ++ middle' ++ after) c := by
  simp only [overwritten, accepted_append, List.foldl_append, h]

/-! ### What is registered after a run -/

namespace Session

/-- A step writes the mapping that it registers over the one that is there. -/
theorem getD_registered_step (s : Session) (step : SessionStep) (c : ClassName) :
    (get? (perform step.run s).2.registered c).getD [] =
      (accepted [step] c).foldl putAll ((get? s.registered c).getD []) := by
  cases step with
  | look k =>
    rw [SessionStep.run, snd_perform_discard, (onlyLooksUp_contextFields k s).registered]
    rfl
  | extract v =>
    rw [SessionStep.run, snd_perform_discard, (onlyLooksUp_extractContext v s).registered]
    rfl
  | register k entries =>
    rw [SessionStep.run, perform_register]
    cases hc : checkRegistrations entries with
    | error f =>
      rw [accepted_refused hc]
      rfl
    | ok ds =>
      obtain rfl := checkRegistrations_eq_ok_iff.mp hc
      change _ = (accepted [registering k ds] c).foldl putAll _
      rw [accepted_registering_cons]
      dsimp only
      rw [get?_put]
      split_ifs with hk
      · subst hk
        rfl
      · rfl
  | forget => rfl
  | keep on => rfl

/-- **After a run the accepted mappings are registered, written one over the other.** -/
theorem getD_registered_after (Γ : Classes) (steps : List SessionStep) (c : ClassName) :
    (get? ((start Γ).after steps).registered c).getD [] = overwritten steps c := by
  induction steps using List.reverseRecOn with
  | nil => rfl
  | append_singleton steps step ih =>
    have hlast : (start Γ).after (steps ++ [step]) =
        (perform step.run ((start Γ).after steps)).2 := List.foldl_concat ..
    rw [hlast, getD_registered_step, ih, overwritten, overwritten, accepted_append,
      List.foldl_append]

variable {s t : Session}

/-- The fields of a class follow from the classes and what is registered for each of them. -/
theorem computeFields_congr (hclasses : t.classes = s.classes)
    (hregistered : ∀ k, (get? t.registered k).getD [] = (get? s.registered k).getD [])
    (c : ClassName) : t.computeFields c = s.computeFields c := by
  have hown : t.ownDeclarations = s.ownDeclarations := by
    funext k
    unfold ownDeclarations
    rw [hclasses, hregistered]
  rw [computeFields, computeFields, declarations, declarations, hclasses, hown]

/-- After any steps, a lookup finds the fields that the declarations of a hierarchy make, if its
annotations evaluate. -/
theorem fst_perform_contextFields_after {Γ : Classes}
    (he : ∀ d ∈ Γ.decls, ∀ e ∈ d.annotations, ∃ m, e.2.evaluate = .ok m) :
    (perform (contextFields c) ((start Γ).after steps)).1 =
      .ok (fieldsOf (((start Γ).after steps).declared c)) := by
  have hevaluates : ((start Γ).after steps).Evaluates c := by
    intro d hd
    rw [classes_after] at hd
    exact he d (Classes.mem_decls_of_mem_declsOf hd)
  rw [(fresh_after Γ steps).fst_perform_contextFields, computeFields, declarations_eq hevaluates]

end Session

/-! ### The fields after a run -/

namespace Classes

/-- What a lookup of the fields of a class gives after a run. -/
def fieldsAfter (Γ : Classes) (steps : List SessionStep) (c : ClassName) :
    Except Failure (List Field) :=
  (perform (contextFields c) ((Session.start Γ).after steps)).1

/-- The fields after a run depend on what is registered for each class alone. -/
theorem fieldsAfter_congr (Γ : Classes) {steps' : List SessionStep}
    (h : ∀ k, overwritten steps k = overwritten steps' k) (c : ClassName) :
    Γ.fieldsAfter steps c = Γ.fieldsAfter steps' c := by
  rw [fieldsAfter, fieldsAfter, (Session.fresh_after Γ steps).fst_perform_contextFields,
    (Session.fresh_after Γ steps').fst_perform_contextFields]
  refine Session.computeFields_congr ?_ (fun k => ?_) c
  · rw [Session.classes_after, Session.classes_after]
  · rw [Session.getD_registered_after, Session.getD_registered_after, h]

/-- What the fields of classes tell about the calls that register directives, whatever steps stand
between the calls. -/
structure FollowsRegistrations (Γ : Classes) : Prop where
  /-- They depend, for each class, on the accepted mappings written one over the other. -/
  overwritten : ∀ steps steps', (∀ k, overwritten steps k = overwritten steps' k) →
    ∀ c, Γ.fieldsAfter steps c = Γ.fieldsAfter steps' c
  /-- Calls on different classes can be made in any order. -/
  reordered : ∀ steps steps', (∀ k, callsOn steps k = callsOn steps' k) →
    ∀ c, Γ.fieldsAfter steps c = Γ.fieldsAfter steps' c
  /-- Calls on one class come to one call with the merged mapping: each name where it came first,
  with the directive that came last. -/
  merged : ∀ before after k parts whole, IsMerged parts whole →
    ∀ c, Γ.fieldsAfter (before ++ parts.map (registering k) ++ after) c =
      Γ.fieldsAfter (before ++ [registering k whole] ++ after) c
  /-- A call with anything but directives is refused, and as if it had not been made. -/
  refused : ∀ before after k entries name v, (name, .other v) ∈ entries →
    (∀ s, ∃ f, perform (register k entries) s = (.error f, s)) ∧
      ∀ c, Γ.fieldsAfter (before ++ [.register k entries] ++ after) c =
        Γ.fieldsAfter (before ++ after) c

/-- **The fields of classes follow from what was registered for each class**, and not from the
calls by which it was. -/
theorem followsRegistrations (Γ : Classes) : Γ.FollowsRegistrations where
  overwritten _ _ h := Γ.fieldsAfter_congr h
  reordered steps steps' h := by
    refine Γ.fieldsAfter_congr fun k => ?_
    unfold Carryover.overwritten accepted
    rw [h]
  merged before after k parts whole hwhole := by
    refine Γ.fieldsAfter_congr fun c => overwritten_congr_middle (fun es => ?_) before after
    rw [accepted_map_registering, accepted_registering_cons]
    split_ifs
    · have hwrites : putAll [] parts.flatten = whole := by
        rw [hwhole.eq_foldl_putAll, foldl_putAll]
      rw [foldl_putAll, List.foldl_cons, accepted_nil, List.foldl_nil, ← hwrites,
        putAll_putAll_nil]
    · rfl
  refused before after k entries name v hv := by
    obtain ⟨f, hf⟩ := exists_checkRegistrations_eq_error hv
    refine ⟨fun s => ⟨f, by rw [perform_register, hf]⟩, Γ.fieldsAfter_congr fun c => ?_⟩
    have hnone : ∀ es, (accepted [.register k entries] c).foldl putAll es =
        (accepted [] c).foldl putAll es := by
      intro es
      rw [accepted_refused hf]
      rfl
    rw [overwritten_congr_middle hnone, List.append_nil]

end Classes
end Carryover
