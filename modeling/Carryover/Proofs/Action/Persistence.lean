import Carryover.Proofs.Action.Updates
import Carryover.Proofs.Extract.Admitted
import Carryover.Proofs.Stored.Written

/-!
# What is stored can be persisted

A value is stored as a text, a flag or a number, and each of these has a JSON but for the numbers of
declared classes. So the context of an action can be stored as text at any time, after a call and
after any updates, exactly if it holds no such number (`toText_updates_ofCall`). That is so also if
updates fail.
-/

namespace Carryover
namespace Action

variable {Γ : Classes} {a : Action}

/-- The value that the stored text is the JSON of. -/
def stored (a : Action) : Value :=
  .dict [(.text storedKey, .dict (a.context.map fun (k, v) => (.text k, v)))]

/-- The text of an action is that of its JSON, if it has one without a fallback. -/
theorem toText_eq (Γ : Classes) (a : Action) :
    a.toText Γ = match Γ.strictJson? a.stored with
      | some j => .ok j.render
      | none => .error .unwritable := rfl

/-- The entry of an object that an entry of a context is written as. -/
def entryJson? (Γ : Classes) (e : String × Value) : Option (String × Json) :=
  (Γ.toJson? false (Classes.writingRoom - 2) e.2).map (e.1, ·)

/-- The tree of an action is made of those of its entries. -/
theorem strictJson?_stored_eq (Γ : Classes) (a : Action) :
    Γ.strictJson? a.stored =
      (a.context.mapM (entryJson? Γ)).map fun es => .object [(storedKey, .object es)] := by
  rw [stored, Classes.strictJson?, Classes.writingRoom, Classes.toJson?]
  simp only [List.mapM_cons, List.mapM_nil, Classes.keyText?, toJson?_texts a.context false 253]
  change _ = (a.context.mapM (fun e => (Γ.toJson? false 253 e.2).map (e.1, ·))).map _
  cases a.context.mapM (fun e => (Γ.toJson? false 253 e.2).map (e.1, ·)) <;> rfl

/-- The tree of an action whose context holds texts, flags and numbers. -/
theorem strictJson?_of_settled (ha : a.context.Settled Γ) :
    Γ.strictJson? a.stored = if a.context.hasDeclaredNumber then none
      else some (.object [(storedKey, a.context.written)]) := by
  rw [stored, Classes.strictJson?, Classes.writingRoom, Classes.toJson?]
  simp only [List.mapM_cons, List.mapM_nil, Classes.keyText?, toJson?_context ha]
  split_ifs <;> rfl

/-- **An action whose context holds texts, flags and numbers can be stored exactly if none of them
is a number of a declared class.** -/
theorem toText_of_settled (ha : a.context.Settled Γ) :
    a.toText Γ = if a.context.hasDeclaredNumber then .error .unwritable
      else .ok (Json.object [(storedKey, a.context.written)]).render := by
  rw [toText_eq, strictJson?_of_settled ha]
  split_ifs <;> rfl

/-- An action that holds a number of a declared class cannot be stored. -/
theorem toText_of_declaredNumber {key : String} {v : Value}
    (hget : Entries.get? a.context key = some v) (hv : Γ.Admits v)
    (hn : v.isDeclaredNumber = true) : a.toText Γ = .error .unwritable := by
  have hnone : entryJson? Γ (key, v) = none := by
    rw [entryJson?, toJson?_declaredNumber hv hn]
    rfl
  rw [toText_eq, strictJson?_stored_eq, mapM_eq_none (Entries.mem_of_get? hget) hnone]
  rfl

/-- An update keeps a context of texts, flags and numbers. -/
theorem settled_toContext {u : Update} (hu : ∀ x ∈ u.entries, Γ.Admits x.2) {c : Context}
    (hc : c.Settled Γ) : (perform (u.toContext Γ) c).2.Settled Γ := by
  cases u with
  | one key v => exact hc.mergeOne (hu (key, v) List.mem_cons_self) key
  | many es => exact hc.mergeMany hu

/-- Updates keep a context of texts, flags and numbers one. -/
theorem settled_updates (ha : a.context.Settled Γ) {us : List Update}
    (hus : ∀ u ∈ us, ∀ x ∈ u.entries, Γ.Admits x.2) :
    (a.updates Γ us).context.Settled Γ := by
  induction us using List.reverseRecOn with
  | nil => exact ha
  | append_singleton us u ih =>
    rw [updates_concat, context_update]
    exact settled_toContext (hus u (by simp)) (ih fun u hu => hus u (List.mem_append_left _ hu))

/-! ### The context of a call -/

/-- A part of the identity is no part of the context. -/
theorem context_setPart {a b : Action} {key : String} {v : Value}
    (h : a.setPart key v = .ok b) : b.context = a.context := by
  unfold setPart at h
  split at h
  · cases h
    rfl
  · cases h
    rfl
  · cases h
    rfl
  · cases h
    rfl
  · split at h <;> cases h <;> rfl
  · cases h

/-- A new action has an empty context. -/
theorem context_make {identity : Entries String Value} (h : make identity = .ok a) :
    a.context = [] := by
  have hall (es : Entries String Value) (new : Action) (hnew : new.context = [])
      (h : es.foldlM (fun a (key, v) => a.setPart key v) new = .ok a) : a.context = [] := by
    induction es generalizing new with
    | nil =>
      cases h
      exact hnew
    | cons e es ih =>
      rw [List.foldlM_cons] at h
      cases hset : new.setPart e.1 e.2 with
      | error f => simp [hset, Bind.bind, Except.bind] at h
      | ok b =>
        simp only [hset, Bind.bind, Except.bind] at h
        exact ih b ((context_setPart hset).trans hnew) h
  exact hall identity {} rfl h

/-- An action that is made of a call holds what the extracted entries write into an empty
context. -/
theorem context_ofCall {s t : Session} {c : Callable} {positional : List Value}
    {named identity : Entries String Value}
    (h : perform (ofCall c positional named identity) s = (.ok a, t)) :
    ∃ entries, perform (extractCall c positional named) s = (.ok entries, t) ∧
      a.context = (perform (mergeMany t.classes entries) []).2 := by
  rw [ofCall] at h
  obtain ⟨new, s', hnew, h⟩ := perform_bind_eq_ok.mp h
  obtain ⟨entries, u, hentries, h⟩ := perform_bind_eq_ok.mp h
  obtain ⟨Γ, u', hΓ, h⟩ := perform_bind_eq_ok.mp h
  rw [perform_liftExcept] at hnew
  obtain ⟨hmake, rfl⟩ := Prod.mk.inj hnew
  cases hΓ
  rw [context_make hmake] at h
  split at h
  · rename_i changed context hmerge
    cases h
    exact ⟨entries, hentries, congrArg Prod.snd hmerge.symm⟩
  · cases h

/-- The context of a call holds texts, flags and numbers. -/
theorem settled_ofCall {s t : Session} {c : Callable} {positional : List Value}
    {named identity : Entries String Value} (hcall : s.classes.AdmitsCall c positional named)
    (h : perform (ofCall c positional named identity) s = (.ok a, t)) :
    a.context.Settled s.classes := by
  obtain ⟨entries, hentries, hcontext⟩ := context_ofCall h
  obtain ⟨hclasses, hall⟩ := hcall.extractCall hentries
  rw [hcontext, hclasses]
  exact settled_nil.mergeMany fun e he => (hall e he).self

/-- **What an action stores can be persisted exactly if no number of a declared class is among it**:
so it is for an action that was made of a call, after any updates, those included that fail. -/
theorem toText_updates_ofCall {s t : Session} {c : Callable} {positional : List Value}
    {named identity : Entries String Value} (hcall : s.classes.AdmitsCall c positional named)
    (h : perform (ofCall c positional named identity) s = (.ok a, t)) {us : List Update}
    (hus : ∀ u ∈ us, ∀ x ∈ u.entries, s.classes.Admits x.2) :
    (a.updates s.classes us).toText s.classes =
      if (a.updates s.classes us).context.hasDeclaredNumber then .error .unwritable
      else .ok (Json.object [(storedKey, (a.updates s.classes us).context.written)]).render :=
  toText_of_settled (settled_updates (settled_ofCall hcall h) hus)

/-- An enumeration of numbers, and a class whose objects can be numbers. -/
def levels : Classes :=
  { decls := [{ name := "Level", kind := .enumeration .int, members := [("LOW", .int 1)] },
      { name := "Money", kind := .plain }] }

/-- A member of the enumeration. -/
def low : Value :=
  .member "Level" .int "LOW" (.int 1)

/-- A number of the other class. -/
def five : Value :=
  .number 0 "Money" [("amount", .int 5)]

/-- A function whose argument comes into the context. -/
def grading : Callable :=
  .presented .function
    ⟨"grade", [⟨"level", .either, some (.annotated .any [.directive {}]), none⟩], none⟩ none

theorem admitsParts_low : levels.AdmitsParts low := by
  simp [Classes.AdmitsParts, low, Value.parts, Classes.Admits, Classes.find?, levels]

theorem admitsParts_five : levels.AdmitsParts five := by
  simp only [Classes.AdmitsParts, five, Value.parts, Value.attrParts, List.forall_mem_cons,
    List.append_nil]
  exact ⟨⟨rfl, rfl⟩, trivial, List.forall_mem_nil _⟩

theorem admitsCall_grading {v : Value} (hv : levels.AdmitsParts v) :
    levels.AdmitsCall grading [v] [] := by
  refine ⟨?_, ?_, by simpa using hv, List.forall_mem_nil _⟩
  · simp [Classes.AdmitsOwn, Classes.parts, ClassDecl.parts, Classes.otherParts, levels]
  · simp [Callable.parameters, grading]

/-- A call of the function with a number stores this number. -/
theorem perform_ofCall_grading {v : Value} (hv : v = low ∨ v = five) :
    perform (ofCall grading [v] [] []) (.start levels) =
      (.ok { context := [("level", v)] }, .start levels) := by
  have hkey : ({} : Directive).resolve "level" = "level" :=
    Directive.resolve_of_blank Text.blank_empty Text.blank_empty "level"
  suffices perform (ofCall grading [v] [] []) (.start levels) =
      (.ok { context := [(({} : Directive).resolve "level", v)] }, .start levels) by
    rwa [hkey] at this
  obtain rfl | rfl := hv <;> rfl

/-- A fraction, and then a complex number and bytes that have no JSON. -/
def gradingUpdates : List Update :=
  [.one "share" (.fraction (1 / 2)),
    .many [("level", .complex (.zero true) (.zero false)), ("raw", .octets .bytes [0xff])]]

theorem toText_updates_ofCall_grading :
    ∃ a t, perform (ofCall grading [low] [] []) (.start levels) = (.ok a, t) ∧
      (a.updates levels gradingUpdates).toText levels =
        if (a.updates levels gradingUpdates).context.hasDeclaredNumber then .error .unwritable
        else .ok (Json.object
          [(storedKey, (a.updates levels gradingUpdates).context.written)]).render := by
  have h := perform_ofCall_grading (.inl rfl)
  refine ⟨_, _, h, toText_updates_ofCall (admitsCall_grading admitsParts_low) h ?_⟩
  simp only [gradingUpdates, Update.entries, List.forall_mem_cons]
  exact ⟨⟨trivial, List.forall_mem_nil _⟩, ⟨trivial, trivial, List.forall_mem_nil _⟩,
    List.forall_mem_nil _⟩

/-- **Not all that is stored can be persisted**: a number of a declared class is stored and has no
JSON. -/
theorem not_toText_updates_ofCall :
    ¬ ∀ (s t : Session) (c : Callable) (positional : List Value)
      (named identity : Entries String Value) (a : Action) (us : List Update),
      s.classes.AdmitsCall c positional named →
        perform (ofCall c positional named identity) s = (.ok a, t) →
          (∀ u ∈ us, ∀ x ∈ u.entries, s.classes.Admits x.2) →
            ∃ text, (a.updates s.classes us).toText s.classes = .ok text := by
  intro h
  obtain ⟨text, htext⟩ := h (.start levels) _ grading [five] [] [] _ []
    (admitsCall_grading admitsParts_five) (perform_ofCall_grading (.inr rfl))
    (List.forall_mem_nil _)
  have hrefused : ({ context := [("level", five)] } : Action).toText levels = .error .unwritable :=
    rfl
  exact absurd (hrefused.symm.trans htext) (by simp)

end Action
end Carryover
