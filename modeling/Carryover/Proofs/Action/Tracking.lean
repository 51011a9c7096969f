import Carryover.Proofs.Action.Updates

/-!
# Keeping a change in mind

An action keeps in mind whether its context has changed. It does so when an update comes to its
end; an update that fails half way leaves the values before the failure in the context and keeps
nothing in mind. So a run of updates is tracked exactly if each update that loses a change in
this way comes after one that has been kept in mind (`tracks_iff`).
-/

namespace Carryover
namespace Action

variable {Γ : Classes} {a : Action} {us : List Update}

/-- After each update of a run, a context that differs from the one at the start is known to
have changed. -/
def Tracks (Γ : Classes) (a : Action) (us : List Update) : Prop :=
  ∀ done, done <+: us → a.context.Differs (a.updates Γ done).context →
    (a.updates Γ done).updated = true

/-- An update loses a change if it writes several values, one of them has no stored form when its
turn comes, and the values before that one change the context. -/
def Update.Loses (Γ : Classes) (a : Action) (u : Update) : Prop :=
  ∃ done x rest d, u = .many (done ++ x :: rest) ∧ Γ.Rejects (x.2.drained (Γ.usedUpBy done)) ∧
    (∃ b, perform (mergeMany Γ done) a.context = (.ok b, d)) ∧ a.context.Differs d

/-- An update that loses a change leaves a context that differs and keeps nothing in mind. -/
theorem Update.Loses.update {u : Update} (h : u.Loses Γ a) :
    a.context.Differs (a.update Γ u).2.context ∧ (a.update Γ u).2.updated = a.updated := by
  obtain ⟨done, x, rest, d, rfl, hx, ⟨b, hb⟩, hd⟩ := h
  obtain ⟨f, hf⟩ := perform_mergeMany_of_rejects (x := x) hx hb rest
  rw [update_eq, Update.toContext, hf]
  exact ⟨hd, rfl⟩

/-- After an update a change is kept in mind, or there is none, or it is lost. -/
theorem update_cases {u : Update} (ha : a.context.Admitted Γ) (hn : a.context.NoNan)
    (hu : ∀ x ∈ u.entries, Γ.Admits x.2 ∧ x.2.isNan = false) :
    (a.update Γ u).2.updated = true ∨ ¬ a.context.Differs (a.update Γ u).2.context ∨
      u.Loses Γ a := by
  rw [update_eq]
  rcases hp : perform (u.toContext Γ) a.context with ⟨f | changed, c⟩
  · right
    cases u with
    | one key v =>
      have hr : Γ.Rejects v := rejects_of_mergeOne hn (hu (key, v) List.mem_cons_self).2
        (by rw [← Update.toContext, hp])
      obtain ⟨g, hg⟩ := perform_mergeOne_of_rejects hr key a.context
      rw [Update.toContext, hg] at hp
      cases hp
      exact .inl (not_differs_refl _)
    | many es =>
      obtain ⟨done, x, rest, hes, hx, hb⟩ := rejects_of_mergeMany hn (fun x hx => (hu x hx).2) hp
      by_cases hd : a.context.Differs c
      · exact .inr ⟨done, x, rest, c, congrArg Update.many hes, hx, hb, hd⟩
      · exact .inl hd
  · cases changed with
    | true => exact .inl (by simp)
    | false =>
      refine .inr (.inl ?_)
      cases u with
      | one key v => exact not_differs_of_mergeOne hp
      | many es => exact not_differs_of_mergeMany ha (fun x hx => (hu x hx).1) hp

/-- **A run of updates is tracked exactly if no change is lost before one is kept in mind.** -/
theorem tracks_iff (hc : ∀ x ∈ a.context, Γ.Admits x.2 ∧ x.2.isNan = false)
    (hus : ∀ u ∈ us, ∀ x ∈ u.entries, Γ.Admits x.2 ∧ x.2.isNan = false) :
    Tracks Γ a us ↔
      ∀ done u, done ++ [u] <+: us → u.Loses Γ (a.updates Γ done) →
        (a.updates Γ done).updated = true := by
  have hadm : a.context.Admitted Γ := fun k v hv => (hc _ (Entries.mem_of_get? hv)).1
  have hnan : a.context.NoNan := fun k v hv => (hc _ (Entries.mem_of_get? hv)).2
  have hgrow {done : List Update} (hd : done <+: us) :
      a.context.Grows Γ (a.updates Γ done).context :=
    grows_updates (fun u hu x hx => (hus u (hd.subset hu) x hx).1) a
  have hstep {done : List Update} {u : Update} (hd : done ++ [u] <+: us) :
      (a.updates Γ done).context.Grows Γ (a.updates Γ (done ++ [u])).context := by
    rw [updates_concat, context_update]
    exact grows_toContext (fun x hx => (hus u (hd.subset (by simp)) x hx).1) _
  constructor
  · intro htrack done u hd hl
    have hd' : done <+: us := (List.prefix_append done [u]).trans hd
    by_contra hup
    have hsame : ¬ a.context.Differs (a.updates Γ done).context := fun h => hup (htrack done hd' h)
    have hsame' : ¬ a.context.Differs (a.updates Γ (done ++ [u])).context := by
      intro h
      have := htrack (done ++ [u]) hd h
      rw [updates_concat, hl.update.2] at this
      exact hup this
    refine not_differs_of_not_differs hadm (hgrow hd') (hstep hd) hsame hsame' ?_
    rw [updates_concat]
    exact hl.update.1
  · intro hlost done hd
    induction done using List.reverseRecOn with
    | nil => exact fun h => absurd h (not_differs_refl _)
    | append_singleton done u ih =>
      intro hdiff
      have hd' : done <+: us := (List.prefix_append done [u]).trans hd
      by_cases hup : (a.updates Γ done).updated = true
      · rw [updates_concat]
        exact updated_update hup u
      have hsame : ¬ a.context.Differs (a.updates Γ done).context := fun h => hup (ih hd' h)
      have hn : (a.updates Γ done).context.NoNan :=
        noNan_updates (fun u hu x hx => (hus u (hd'.subset hu) x hx).2) hnan
      obtain h | h | h := update_cases (u := u) ((hgrow hd').admitted hadm) hn
        (hus u (hd.subset (by simp)))
      · rw [updates_concat]
        exact h
      · rw [← updates_concat] at h
        exact absurd hdiff (not_differs_trans hadm (hgrow hd') (hstep hd) hsame h)
      · exact absurd (hlost done u hd h) hup

/-- A run in which the change that is lost, of `"b"`, comes after one that is kept in mind. -/
theorem tracks_of_earlier_change :
    (∀ x ∈ ({} : Action).context, Classes.Admits {} x.2 ∧ x.2.isNan = false) ∧
      (∀ u ∈ [Update.one "a" (.int 1), .many [("b", .int 2), ("c", .octets .bytes [255])]],
        ∀ x ∈ u.entries, Classes.Admits {} x.2 ∧ x.2.isNan = false) ∧
      Tracks {} {} [.one "a" (.int 1), .many [("b", .int 2), ("c", .octets .bytes [255])]] := by
  have hc : ∀ x ∈ ({} : Action).context, Classes.Admits {} x.2 ∧ x.2.isNan = false :=
    fun _ hx => absurd hx List.not_mem_nil
  have hus : ∀ u ∈ [Update.one "a" (.int 1), .many [("b", .int 2), ("c", .octets .bytes [255])]],
      ∀ x ∈ u.entries, Classes.Admits {} x.2 ∧ x.2.isNan = false := by
    simp only [List.forall_mem_cons, Update.entries]
    simp [Classes.Admits, Value.isNan, Value.quantity?]
  refine ⟨hc, hus, (tracks_iff hc hus).mpr fun done u hd hl => ?_⟩
  cases done with
  | nil =>
    obtain ⟨_, _, _, _, rfl, -⟩ := hl
    simp at hd
  | cons v done =>
    obtain ⟨rfl, hd⟩ := List.cons_prefix_cons.mp hd
    have hnil : done = [] := List.eq_nil_of_length_eq_zero (by
      have := hd.length_le
      simp only [List.length_append, List.length_cons, List.length_nil] at this
      omega)
    subst hnil
    rfl

/-- **A change that is lost is not tracked:** `"a"` is new in the context when `"b"` fails. -/
theorem not_tracks_lost_change :
    ({} : Action).updated = false ∧
      (∀ x ∈ (Update.many [("a", .int 1), ("b", .octets .bytes [255])]).entries,
        Classes.Admits {} x.2 ∧ x.2.isNan = false) ∧
      ¬ Tracks {} {} [.many [("a", .int 1), ("b", .octets .bytes [255])]] := by
  refine ⟨rfl, ?_, fun h => ?_⟩
  · simp only [List.forall_mem_cons, Update.entries]
    simp [Classes.Admits, Value.isNan, Value.quantity?]
  have hdiff : ({} : Action).context.Differs
      (({} : Action).updates {}
        [.many [("a", .int 1), ("b", .octets .bytes [255])]]).context := by
    refine ⟨"a", .int 1, rfl, fun _ hv => ?_⟩
    cases hv
  exact Bool.false_ne_true (h _ (List.prefix_refl _) hdiff)

end Action
end Carryover
