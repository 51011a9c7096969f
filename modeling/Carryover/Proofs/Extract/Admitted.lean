import Carryover.Call.Extract
import Carryover.Proofs.Extract.Depth
import Carryover.Proofs.Value.Sameness

/-!
# The values of a call

A call brings no values of its own into a context. What is bound to a parameter is an argument, a
default, or a row or a mapping of arguments; what a directive takes of it is a part of it or of a
class. So members of enumerations that are as their classes declare them come into a context as
they are (`AdmitsCall.extractCall`).
-/

namespace Carryover

open Entries

namespace Value

/-- The parts of items are those of each item. -/
theorem mem_itemParts_iff {vs : List Value} {w : Value} :
    w ∈ itemParts vs ↔ ∃ v ∈ vs, w ∈ v.parts := by
  induction vs with
  | nil => simp [itemParts]
  | cons v vs ih => simp [itemParts, ih]

/-- The parts of entries are those of each key and value. -/
theorem mem_entryParts_iff {es : List (Value × Value)} {w : Value} :
    w ∈ entryParts es ↔ ∃ e ∈ es, w ∈ e.1.parts ∨ w ∈ e.2.parts := by
  induction es with
  | nil => simp [entryParts]
  | cons e es ih =>
    obtain ⟨k, v⟩ := e
    simp [entryParts, ih, or_assoc]

end Value

namespace Classes

/-- Whether the members of enumerations in a value are as the classes declare them. -/
def AdmitsParts (Γ : Classes) (v : Value) : Prop :=
  ∀ w ∈ v.parts, Γ.Admits w

/-- Whether the members of enumerations in the values that the classes hold are as the classes
declare them. -/
def AdmitsOwn (Γ : Classes) : Prop :=
  ∀ w ∈ Γ.parts, Γ.Admits w

variable {Γ : Classes} {v w : Value}

/-- A value is one of its parts. -/
theorem AdmitsParts.self (h : Γ.AdmitsParts v) : Γ.Admits v :=
  h v v.mem_parts_self

/-- The parts of a part are parts. -/
theorem AdmitsParts.of_mem (h : Γ.AdmitsParts v) (hw : w ∈ v.parts) : Γ.AdmitsParts w :=
  fun x hx => h x (Value.parts_subset hw hx)

/-- The parts that the classes hold are admitted with them. -/
theorem AdmitsOwn.of_mem (h : Γ.AdmitsOwn) (hw : w ∈ Γ.parts) : Γ.AdmitsParts w :=
  fun x hx => h x (parts_subset hw hx)

/-- A text has no part but itself. -/
theorem admitsParts_text (s : String) : Γ.AdmitsParts (.text s) := by
  intro w hw
  obtain rfl := List.mem_singleton.mp hw
  trivial

/-- A row is admitted with its items. -/
theorem admitsParts_row {form : RowForm} {items : List Value}
    (h : ∀ v ∈ items, Γ.AdmitsParts v) : Γ.AdmitsParts (.row form items) := by
  intro w hw
  obtain rfl | hw := List.mem_cons.mp hw
  · trivial
  · obtain ⟨v, hv, hw⟩ := Value.mem_itemParts_iff.mp hw
    exact h v hv w hw

/-- A mapping from texts is admitted with its values. -/
theorem admitsParts_dict {es : Entries String Value} (h : ∀ e ∈ es, Γ.AdmitsParts e.2) :
    Γ.AdmitsParts (.dict (es.map fun (k, v) => (.text k, v))) := by
  intro w hw
  obtain rfl | hw := List.mem_cons.mp hw
  · trivial
  · obtain ⟨_, hmem, hw⟩ := Value.mem_entryParts_iff.mp hw
    obtain ⟨e, he, rfl⟩ := List.mem_map.mp hmem
    obtain hw | hw := hw
    · exact admitsParts_text e.1 w hw
    · exact h e he w hw

/-- What is read of a value is as declared if the value and the classes are. -/
theorem AdmitsParts.attribute? {name : String} (hv : Γ.AdmitsParts v) (hΓ : Γ.AdmitsOwn)
    (h : Γ.attribute? v name = .ok (some w)) : Γ.AdmitsParts w := by
  obtain hw | hw := mem_parts_of_attribute? h
  · exact hv.of_mem hw
  · exact hΓ.of_mem hw

/-- The element that a directive takes of an admitted value is admitted. -/
theorem AdmitsParts.take? {d : Directive} (hv : Γ.AdmitsParts v)
    (h : d.take? v = .ok (some w)) : Γ.AdmitsParts w :=
  hv.of_mem (mem_parts_of_take? h)

end Classes

/-! ### Extraction -/

section Extraction

variable {Γ : Classes} {s t : Session} {target : Value} {c d : Context}

/-- The writes of an object write values that are as declared. -/
theorem FieldWrites.admitsParts {fields : List Field} {ws : List (String × Value)}
    (h : FieldWrites s target fields ws) (hΓ : s.classes.AdmitsOwn)
    (ht : s.classes.AdmitsParts target) : ∀ e ∈ ws, s.classes.AdmitsParts e.2 := by
  induction h with
  | nil => exact fun e he => nomatch he
  | unset _ _ ih => exact ih ht
  | skipped _ _ _ ih => exact ih ht
  | stored hread hv _ _ ih =>
    exact List.forall_mem_cons.mpr ⟨(ht.attribute? hΓ hread).take? hv, ih ht⟩
  | flattened hread hv _ _ _ _ ihinner ih =>
    exact List.forall_mem_append.mpr ⟨ihinner ((ht.attribute? hΓ hread).take? hv), ih ht⟩

/-- What is extracted from an admitted value is admitted. -/
theorem admitsParts_of_extractContext (hΓ : Γ.AdmitsOwn) (hs : s.classes = Γ)
    (ht : Γ.AdmitsParts target) (h : perform (extractContext target) s = (.ok c, t)) :
    t.classes = Γ ∧ ∀ e ∈ c, Γ.AdmitsParts e.2 := by
  subst hs
  rw [perform_extractContext] at h
  obtain ⟨hagrees, ws, ⟨-, fields, -, hws⟩, rfl⟩ :=
    extracts_extractWithin s _ target c s t (.refl s) h
  refine ⟨hagrees.classes, fun e he => hws.admitsParts hΓ ht e ?_⟩
  exact (mem_putAll he).resolve_left List.not_mem_nil

/-- What a directive takes of a value that is as declared is as declared. -/
theorem admitsParts_of_applyDirective {role name : String} {v : Value} {dir : Directive}
    (hΓ : Γ.AdmitsOwn) (hs : s.classes = Γ) (hv : Γ.AdmitsParts v)
    (hc : ∀ e ∈ c, Γ.AdmitsParts e.2)
    (h : perform (applyDirective role name v dir c) s = (.ok d, t)) :
    t.classes = Γ ∧ ∀ e ∈ d, Γ.AdmitsParts e.2 := by
  obtain ⟨log, hplace⟩ := perform_place extractContext role name v dir c s
  have hlog : ({ s with log := log } : Session).classes = Γ := hs
  generalize { s with log := log } = s' at hplace hlog
  rw [applyDirective, hplace] at h
  rcases hw : dir.take? v with fault | _ | w
  · rw [hw] at h
    cases h
  · rw [hw] at h
    cases h
    exact ⟨hlog, hc⟩
  · rw [hw] at h
    dsimp only at h
    rw [perform_placeTaken] at h
    dsimp only at h
    split_ifs at h
    · generalize hp : perform (extractContext w) s' = p at h
      obtain ⟨e | inner, u⟩ := p
      · cases h
      · cases h
        obtain ⟨hu, hinner⟩ := admitsParts_of_extractContext hΓ hlog (hv.take? hw) hp
        exact ⟨hu, fun e he => (mem_putAll he).elim (hc e) (hinner e)⟩
    · cases h
      refine ⟨hlog, fun e he => ?_⟩
      obtain rfl | he := mem_put he
      · exact hv.take? hw
      · exact hc e he

/-- What is taken from admitted arguments is admitted. -/
theorem admitsParts_of_placeArguments {bound : Arguments} {ds : Entries String Directive}
    (hΓ : Γ.AdmitsOwn) (hs : s.classes = Γ) (hbound : ∀ e ∈ bound, Γ.AdmitsParts e.2)
    (hc : ∀ e ∈ c, Γ.AdmitsParts e.2) (h : perform (placeArguments bound ds c) s = (.ok d, t)) :
    t.classes = Γ ∧ ∀ e ∈ d, Γ.AdmitsParts e.2 := by
  induction ds generalizing c s with
  | nil =>
    cases h
    exact ⟨hs, hc⟩
  | cons x ds ih =>
    obtain ⟨name, dir⟩ := x
    rw [placeArguments] at h
    cases hget : get? bound name with
    | none =>
      rw [hget] at h
      exact ih hs hc h
    | some v =>
      rw [hget] at h
      obtain ⟨c', s', hplace, hrest⟩ := perform_bind_eq_ok.mp h
      obtain ⟨hs', hc'⟩ :=
        admitsParts_of_applyDirective hΓ hs (hbound _ (mem_of_get? hget)) hc hplace
      exact ih hs' hc' hrest

end Extraction

/-! ### Binding -/

namespace Binding

variable {P : Value → Prop} {params left : List Parameter} {named unused : Entries String Value}
  {bound : Arguments}

/-- What is bound by position is an argument or a row of arguments. -/
theorem forall_mem_positions {vs : List Value}
    (hrow : ∀ items : List Value, (∀ v ∈ items, P v) → P (.row .tuple items))
    (hvs : ∀ v ∈ vs, P v) (h : positions named params vs = .ok (bound, left)) :
    ∀ e ∈ bound, P e.2 := by
  induction params generalizing vs bound with
  | nil =>
    cases vs <;> simp [positions] at h
    obtain ⟨rfl, -⟩ := h
    exact fun e he => nomatch he
  | cons p params ih =>
    cases vs with
    | nil =>
      have hnil : bound = [] := by
        simp only [positions] at h
        split at h
        · cases h
          rfl
        · split_ifs at h <;> cases h <;> rfl
      subst hnil
      exact fun e he => nomatch he
    | cons v vs =>
      have hrest : ∀ v ∈ vs, P v := fun v hv => hvs v (List.mem_cons_of_mem _ hv)
      simp only [positions] at h
      split at h
      · cases h
      · cases h
      · cases h
        simpa using hrow _ hvs
      · split_ifs at h
        split at h
        · rename_i more left' hmore
          cases h
          exact List.forall_mem_cons.mpr ⟨hvs v List.mem_cons_self, ih hrest hmore⟩
        · cases h

/-- What is bound by name is an argument, and so is what is left. -/
theorem forall_mem_names (hnamed : ∀ e ∈ named, P e.2)
    (h : names params named = .ok (bound, unused)) :
    (∀ e ∈ bound, P e.2) ∧ ∀ e ∈ unused, P e.2 := by
  induction params generalizing named bound unused with
  | nil =>
    cases h
    exact ⟨List.forall_mem_nil _, hnamed⟩
  | cons p params ih =>
    simp only [names] at h
    split at h
    · exact ih hnamed h
    · exact ih hnamed h
    · split at h
      · rename_i v hv
        split_ifs at h
        split at h
        · rename_i more unused' hmore
          cases h
          obtain ⟨hb, hu⟩ := ih (fun e he => hnamed e (mem_of_mem_erase he)) hmore
          exact ⟨List.forall_mem_cons.mpr ⟨hnamed _ (mem_of_get? hv), hb⟩, hu⟩
        · cases h
      · split_ifs at h
        exact ih hnamed h

end Binding

variable {Γ : Classes}

/-- What a parameter gets is bound to it, its default, or empty. -/
theorem admitsParts_of_withDefault {bound : Arguments} {p : Parameter} {e : String × Value}
    (hbound : ∀ e ∈ bound, Γ.AdmitsParts e.2)
    (hdefault : ∀ v, p.default = some v → Γ.AdmitsParts v)
    (h : Binding.withDefault bound p = some e) : Γ.AdmitsParts e.2 := by
  unfold Binding.withDefault at h
  split at h
  · rename_i v hv
    cases h
    exact hbound _ (mem_of_get? hv)
  · split at h
    · rename_i v hv
      cases h
      exact hdefault v hv
    · cases h
      exact Classes.admitsParts_row (List.forall_mem_nil _)
    · cases h
      exact Classes.admitsParts_dict (List.forall_mem_nil _)
    · cases h

/-- Whether the members of enumerations in the arguments of a call, in the defaults of its
parameters and in what the classes hold are as the classes declare them. -/
structure Classes.AdmitsCall (Γ : Classes) (c : Callable) (positional : List Value)
    (named : Entries String Value) : Prop where
  own : Γ.AdmitsOwn
  defaults : ∀ p ∈ c.parameters Γ, ∀ v, p.default = some v → Γ.AdmitsParts v
  positional : ∀ v ∈ positional, Γ.AdmitsParts v
  named : ∀ e ∈ named, Γ.AdmitsParts e.2

variable {c : Callable} {positional : List Value} {named : Entries String Value}

/-- What is bound to parameters is as declared if the arguments and the defaults are. -/
theorem Classes.AdmitsCall.bind (h : Γ.AdmitsCall c positional named) {bound : Arguments}
    (hb : Carryover.bind (c.parameters Γ) positional named = .ok bound) :
    ∀ e ∈ bound, Γ.AdmitsParts e.2 := by
  unfold Carryover.bind at hb
  cases hp : Binding.positions named (c.parameters Γ) positional with
  | error f => simp [hp, Bind.bind, Except.bind] at hb
  | ok r =>
    obtain ⟨byPosition, left⟩ := r
    cases hn : Binding.names left named with
    | error f => simp [hp, hn, Bind.bind, Except.bind] at hb
    | ok r =>
      obtain ⟨byName, unused⟩ := r
      have hbyPosition := Binding.forall_mem_positions
        (fun _ => Classes.admitsParts_row) h.positional hp
      obtain ⟨hbyName, hunused⟩ := Binding.forall_mem_names h.named hn
      have hall {more : Arguments} (hmore : ∀ e ∈ more, Γ.AdmitsParts e.2) :
          ∀ e ∈ (c.parameters Γ).filterMap (Binding.withDefault (byPosition ++ byName ++ more)),
            Γ.AdmitsParts e.2 := by
        intro e he
        obtain ⟨p, hp, he⟩ := List.mem_filterMap.mp he
        refine admitsParts_of_withDefault ?_ (h.defaults p hp) he
        exact List.forall_mem_append.mpr
          ⟨List.forall_mem_append.mpr ⟨hbyPosition, hbyName⟩, hmore⟩
      simp only [hp, hn, Bind.bind, Except.bind, pure, Except.pure] at hb
      split at hb
      · cases hb
        exact hall (List.forall_mem_nil _)
      · cases hb
        exact hall (List.forall_mem_singleton.mpr (Classes.admitsParts_dict hunused))
      · cases hb

/-- **The values of a call come into its context as declared.** -/
theorem Classes.AdmitsCall.extractCall {s t : Session} {context : Context}
    (h : s.classes.AdmitsCall c positional named)
    (hc : perform (Carryover.extractCall c positional named) s = (.ok context, t)) :
    t.classes = s.classes ∧ ∀ e ∈ context, s.classes.AdmitsParts e.2 := by
  have hclasses : perform Run.classes s = (.ok s.classes, s) := rfl
  rw [Carryover.extractCall, perform_bind, hclasses] at hc
  dsimp only at hc
  cases hb : Carryover.bind (c.parameters s.classes) positional named with
  | error f => simp [hb] at hc
  | ok bound =>
    cases hd : c.directives s.classes with
    | error f => simp [hb, hd] at hc
    | ok ds =>
      rw [hb, hd] at hc
      exact admitsParts_of_placeArguments h.own rfl (h.bind hb) (List.forall_mem_nil _) hc

end Carryover
