import Carryover.Proofs.Action.Restore

/-!
# What an action holds

A write stores a text, a flag or a number under its key. So does every write of a call, and a new
action holds nothing. A restored action holds what stands in its text, nulls, lists and objects
included, and it holds them until a write replaces them. So an action holds texts, flags and numbers
alone exactly if each null, list and object of its text has been replaced (`holdsForms_iff`).

| value under a key | comes from |
| --- | --- |
| text, flag, number | a write, or the text of the action |
| JSON text | a write |
| null, list, object | the text of the action |
-/

namespace Carryover

open Entries

/-- Whether a tree stands for a value that no write stores. -/
def Json.isBare : Json → Bool
  | .null | .list _ | .object _ => true
  | _ => false

/-- Of the values that are read from JSON, the lists, the mappings and the absent value are no
stored forms. -/
theorem Json.isPrimitive_toValue (j : Json) : j.toValue.isPrimitive = !j.isBare := by
  cases j <;> simp [Json.toValue, Json.isBare, Value.isPrimitive, Value.asText?, Value.isNumber]

variable {Γ : Classes} {c : Context} {k : String}

/-- Whether a value is stored under a key when values are written one after the other: by the first
write, or by a later one if the first does not fail. -/
inductive StoresAt (Γ : Classes) (k : String) : Context → List (String × Value) → Prop
  | here {c : Context} {v st : Value} {rest : List (String × Value)} (hv : v ≠ .null)
      (hst : Γ.encode v = .ok st) : StoresAt Γ k c ((k, v) :: rest)
  | later {c : Context} {x : String × Value} {rest : List (String × Value)}
      (hx : (perform (mergeOne Γ x.1 x.2) c).1.isOk = true)
      (hrest : StoresAt Γ k (perform (mergeOne Γ x.1 x.2) c).2 rest) : StoresAt Γ k c (x :: rest)

/-- Whether the value under a key is a text, a flag or a number. -/
def Context.HoldsForm (c : Context) (k : String) : Prop :=
  ∃ v, get? c k = some v ∧ v.isPrimitive = true

/-- A write stores a value under its key, and leaves every other key as it was. -/
theorem get?_mergeOne (key : String) (v : Value) (c : Context) (k : String) :
    (perform (mergeOne Γ key v) c).2.HoldsForm k ∨
      get? (perform (mergeOne Γ key v) c).2 k = get? c k := by
  by_cases hn : v = .null
  · subst hn
    exact .inr rfl
  · rw [perform_mergeOne hn]
    cases hst : Γ.encode v with
    | error f => exact .inr rfl
    | ok st =>
      dsimp only
      by_cases hk : key = k
      · exact .inl ⟨st, by simp [get?_put, hk], isPrimitive_of_encode hst⟩
      · exact .inr (by simp [get?_put, hk])

/-- What a value is stored as is a stored form. -/
theorem holdsForm_mergeOne {v st : Value} (hv : v ≠ .null) (hst : Γ.encode v = .ok st)
    (c : Context) : (perform (mergeOne Γ k v) c).2.HoldsForm k := by
  rw [perform_mergeOne hv, hst]
  exact ⟨st, by simp [get?_put], isPrimitive_of_encode hst⟩

/-- A write keeps a text, a flag or a number under a key. -/
theorem Context.HoldsForm.mergeOne (hc : c.HoldsForm k) (key : String) (v : Value) :
    (perform (mergeOne Γ key v) c).2.HoldsForm k := by
  obtain h | h := get?_mergeOne (Γ := Γ) key v c k
  · exact h
  · rwa [Context.HoldsForm, h]

/-- Merging replaces stored forms by stored forms. -/
theorem Context.HoldsForm.mergeEach (hc : c.HoldsForm k) (es : List (String × Value)) :
    (perform (mergeEach Γ es) c).2.HoldsForm k := by
  induction es generalizing c with
  | nil => exact hc
  | cons x rest ih =>
    rw [snd_mergeEach_cons]
    split_ifs
    · exact ih (hc.mergeOne x.1 x.2)
    · exact hc.mergeOne x.1 x.2

/-- Writes leave a text, a flag or a number under each key that they store a value at. -/
theorem StoresAt.holdsForm {es : List (String × Value)} (h : StoresAt Γ k c es) :
    (perform (mergeEach Γ es) c).2.HoldsForm k := by
  induction h with
  | @here c v st rest hv hst =>
    rw [snd_mergeEach_cons]
    split_ifs
    · exact (holdsForm_mergeOne hv hst c).mergeEach rest
    · exact holdsForm_mergeOne hv hst c
  | later hx hrest ih => rwa [snd_mergeEach_cons, if_pos hx]

/-- Writes leave the value under every other key as it was. -/
theorem get?_mergeEach_of_not_storesAt {es : List (String × Value)} (h : ¬ StoresAt Γ k c es) :
    get? (perform (mergeEach Γ es) c).2 k = get? c k := by
  induction es generalizing c with
  | nil => rfl
  | cons x rest ih =>
    have hhead : get? (perform (mergeOne Γ x.1 x.2) c).2 k = get? c k := by
      by_cases hn : x.2 = .null
      · rw [hn]
        rfl
      · rw [perform_mergeOne hn]
        cases hst : Γ.encode x.2 with
        | error f => rfl
        | ok st =>
          have hk : x.1 ≠ k := by
            rintro rfl
            exact h (.here hn hst)
          simp [get?_put, hk]
    rw [snd_mergeEach_cons]
    split_ifs with hx
    · exact (ih fun hrest => h (.later hx hrest)).trans hhead
    · exact hhead

namespace Action

variable {a : Action}

/-- An update leaves the context that the writes of its entries leave. -/
theorem context_update_eq (a : Action) (u : Update) :
    (a.update Γ u).2.context = (perform (mergeEach Γ (Γ.inTurn [] u.entries)) a.context).2 := by
  rw [context_update]
  cases u with
  | one key v =>
    rw [Update.entries, Classes.inTurn_singleton, snd_mergeEach_cons]
    split_ifs <;> rfl
  | many es => rfl

/-- Whether one of several updates stores a value under a key. -/
def Overwrites (Γ : Classes) (a : Action) (us : List Update) (k : String) : Prop :=
  ∃ done u rest, us = done ++ u :: rest ∧
    StoresAt Γ k (a.updates Γ done).context (Γ.inTurn [] u.entries)

/-- Updates overwrite a key if all but the last do, or the last one stores a value there. -/
theorem overwrites_concat {us : List Update} {u : Update} :
    a.Overwrites Γ (us ++ [u]) k ↔
      a.Overwrites Γ us k ∨ StoresAt Γ k (a.updates Γ us).context (Γ.inTurn [] u.entries) := by
  constructor
  · rintro ⟨done, v, rest, heq, h⟩
    obtain rfl | ⟨rest, w, rfl⟩ := List.eq_nil_or_concat' rest
    · obtain ⟨rfl, hu⟩ := List.append_inj' heq rfl
      obtain rfl := List.singleton_inj.mp hu
      exact .inr h
    · rw [← List.cons_append, ← List.append_assoc] at heq
      exact .inl ⟨done, v, rest, (List.append_inj' heq rfl).1, h⟩
  · rintro (⟨done, v, rest, rfl, h⟩ | h)
    · exact ⟨done, v, rest ++ [u], by simp, h⟩
    · exact ⟨us, u, [], rfl, h⟩

/-- A run of updates leaves a text, a flag or a number under each key that it stores a value at,
and the value from before under every other key. -/
theorem get?_updates (a : Action) (us : List Update) (k : String) :
    (a.Overwrites Γ us k → (a.updates Γ us).context.HoldsForm k) ∧
      (¬ a.Overwrites Γ us k → get? (a.updates Γ us).context k = get? a.context k) := by
  induction us using List.reverseRecOn with
  | nil =>
    refine ⟨?_, fun _ => rfl⟩
    rintro ⟨done, u, rest, heq, -⟩
    simp at heq
  | append_singleton us u ih =>
    rw [updates_concat, context_update_eq, overwrites_concat]
    by_cases hu : StoresAt Γ k (a.updates Γ us).context (Γ.inTurn [] u.entries)
    · exact ⟨fun _ => hu.holdsForm, fun h => absurd (.inr hu) h⟩
    · have hkeep := get?_mergeEach_of_not_storesAt hu
      refine ⟨fun h => ?_, fun h => hkeep.trans (ih.2 fun hus => h (.inl hus))⟩
      exact (ih.1 (h.resolve_right hu)).mergeEach _

/-! ### Where an action comes from -/

/-- Where an action comes from: it is new, or made of a call, or restored. -/
inductive Origin where
  | made (identity : Entries String Value)
  | called (c : Callable) (positional : List Value) (named identity : Entries String Value)
  | restored (text : Option String) (identity : Entries String Value)

/-- The entries under the key of the context in a stored text, if it is one. -/
def entriesOfText (text : Option String) : Entries String Json :=
  match text.bind Json.parse? with
  | some (.object entries) =>
    match get? entries storedKey with
    | some (.object pairs) => pairs
    | _ => []
  | _ => []

namespace Origin

/-- The action that comes from there. -/
def action (s : Session) : Origin → Except Failure Action
  | made identity => make identity
  | called c positional named identity => (perform (ofCall c positional named identity) s).1
  | restored text identity => ofText? text identity

/-- The entries that the stored text of the action gives. -/
def given : Origin → Entries String Json
  | restored text _ => entriesOfText text
  | _ => []

end Origin

/-- A context that is read from a text holds what the entries of the text stand for. -/
theorem contextOfText_eq_ok {text : String} {c : Context} (h : contextOfText text = .ok c) :
    c = (entriesOfText (some text)).map fun (k, j) => (k, j.toValue) := by
  unfold contextOfText at h
  unfold entriesOfText
  rw [Option.bind_some]
  split at h
  · cases h
  · rename_i entries hparse
    rw [hparse]
    dsimp only
    split at h
    · rename_i hget
      cases h
      rw [hget]
      rfl
    · rename_i pairs hget
      cases h
      rw [hget]
    · rename_i j hne hget
      split_ifs at h
      cases h
      rw [hget]
      split
      · rename_i pairs heq
        exact absurd (Option.some.inj heq) (hne pairs)
      · rfl
  · cases h

/-- A restored action holds what its text gives. -/
theorem context_ofText? {text : Option String} {identity : Entries String Value}
    (h : ofText? text identity = .ok a) :
    a.context = (entriesOfText text).map fun (k, j) => (k, j.toValue) := by
  rw [ofText?] at h
  cases hmake : make identity with
  | error f => simp [hmake, Bind.bind, Except.bind] at h
  | ok new =>
    simp only [hmake, Bind.bind, Except.bind] at h
    split at h
    · cases h
      exact context_make hmake
    · cases h
      exact context_make hmake
    · split at h
      · cases h
      · rename_i text _ c hc
        cases h
        exact contextOfText_eq_ok hc

/-- What an action holds at first is what its text gives, and texts, flags and numbers. -/
theorem isPrimitive_of_given {s : Session} {o : Origin} (h : o.action s = .ok a) {k : String}
    {v : Value} (hv : get? a.context k = some v) :
    v.isPrimitive = true ∨ ∃ j, get? o.given k = some j ∧ j.isBare = true ∧ v = j.toValue := by
  cases o with
  | made identity =>
    rw [context_make h] at hv
    cases hv
  | called callable positional named identity =>
    obtain ⟨t, h⟩ : ∃ t, perform (ofCall callable positional named identity) s = (.ok a, t) :=
      ⟨_, Prod.ext h rfl⟩
    obtain ⟨entries, -, hc⟩ := context_ofCall h
    have hall : (perform (mergeMany t.classes entries) []).2.All fun _ v => v.isPrimitive = true :=
      Context.All.nil.mergeEach fun _ _ _ hw => isPrimitive_of_encode hw
    rw [hc] at hv
    exact .inl (hall k v hv)
  | restored text identity =>
    rw [context_ofText? h, get?_map] at hv
    obtain ⟨j, hj, rfl⟩ := Option.map_eq_some_iff.mp hv
    rw [Json.isPrimitive_toValue]
    cases hbare : j.isBare with
    | false => exact .inl rfl
    | true => exact .inr ⟨j, hj, hbare, rfl⟩

/-- An action that is made from a context or a text holds what is given there. -/
theorem get?_of_given {s : Session} {o : Origin} (h : o.action s = .ok a) {k : String} {j : Json}
    (hj : get? o.given k = some j) : get? a.context k = some j.toValue := by
  cases o with
  | restored text identity =>
    rw [context_ofText? h, get?_map]
    exact congrArg (Option.map _) hj
  | _ => cases hj

/-- **An action holds texts, flags and numbers alone after a run of updates exactly if the run has
replaced each null, list and object that its stored text gave**, also if updates fail. -/
theorem holdsForms_iff {s : Session} {o : Origin} (h : o.action s = .ok a) (us : List Update) :
    (a.updates s.classes us).context.All (fun _ v => v.isPrimitive = true) ↔
      ∀ k j, get? o.given k = some j → j.isBare = true → a.Overwrites s.classes us k := by
  constructor
  · intro hall k j hj hbare
    by_contra hno
    have hget := ((get?_updates a us k).2 hno).trans (get?_of_given h hj)
    have hp : j.toValue.isPrimitive = true := hall k _ hget
    rw [Json.isPrimitive_toValue, hbare] at hp
    cases hp
  · intro hgiven k v hv
    by_cases hover : a.Overwrites s.classes us k
    · obtain ⟨w, hw, hp⟩ := (get?_updates a us k).1 hover
      obtain rfl := Option.some.inj (hv.symm.trans hw)
      exact hp
    · rw [(get?_updates a us k).2 hover] at hv
      obtain hp | ⟨j, hj, hbare, -⟩ := isPrimitive_of_given h hv
      · exact hp
      · exact absurd (hgiven k j hj hbare) hover

/-- The tree of a stored text with a null and a number. -/
def halfBare : Json :=
  .object [(storedKey, .object [("a", .null), ("b", .int 1)])]

/-- The action with this text. -/
def halfHeld : Action :=
  { context := [("a", .null), ("b", .int 1)] }

theorem parse?_halfBare : Json.parse? halfBare.render = some halfBare := by
  refine Json.parse?_render (.object (by decide) (by simp) ?_)
  refine List.forall_mem_singleton.mpr (.object (by decide) (by simp) ?_)
  simp only [List.forall_mem_cons]
  exact ⟨.null (by decide), .int (by decide) (by decide), List.forall_mem_nil _⟩

theorem action_halfBare (s : Session) :
    (Origin.restored (some halfBare.render) []).action s = .ok halfHeld := by
  have hrestored := ofText?_of_parse? parse?_halfBare
  rw [Origin.action, hrestored]
  rfl

/-- A null that is replaced by a number. -/
theorem holdsForms_iff_halfBare :
    (Origin.restored (some halfBare.render) []).action (.start {}) = .ok halfHeld ∧
      (halfHeld.updates {} [.many [("b", .octets .bytes [255])], .one "a" (.int 2)]).context.All
        fun _ v => v.isPrimitive = true := by
  refine ⟨action_halfBare _, (holdsForms_iff (action_halfBare (.start {})) _).mpr ?_⟩
  intro k j hj hbare
  have hgiven : entriesOfText (some halfBare.render) = [("a", .null), ("b", .int 1)] := by
    rw [entriesOfText, Option.bind_some, parse?_halfBare]
    rfl
  rw [Origin.given, hgiven] at hj
  have hk : k = "a" := by
    by_contra hk
    simp only [get?, if_neg (Ne.symm hk)] at hj
    split_ifs at hj
    cases hj
    cases hbare
  subst hk
  have hstored : Classes.encode {} (.int 2) = .ok (.int 2) := rfl
  exact ⟨[_], _, [], rfl, .here (by simp [Value.drained]) hstored⟩

/-- **A restored action may hold a null.** -/
theorem not_holdsForms :
    ¬ ∀ (o : Origin) (s : Session) (a : Action) (us : List Update), o.action s = .ok a →
      (a.updates s.classes us).context.All fun _ v => v.isPrimitive = true := by
  intro h
  have hnull := h _ (.start {}) halfHeld [] (action_halfBare _) "a" .null rfl
  cases hnull

end Action
end Carryover
