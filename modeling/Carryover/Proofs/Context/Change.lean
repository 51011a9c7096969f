import Carryover.Proofs.Entries
import Carryover.Proofs.Operation
import Carryover.Proofs.Stored.Drained

/-!
# What a write changes

A context differs from an earlier one if a key is new or its value is not the same. A write that
reports no change leaves a context that does not differ (`not_differs_of_mergeMany`), and a
single write that fails leaves the context as it was (`mergeOne_eq_self_of_error`).

Differing is told apart key by key, and sameness is an equivalence only on the values that are
stored as they are. `Context.Grows` states of two contexts what makes it one: no key goes, and
a value that is not the one from before has been stored.
-/

namespace Carryover

open Entries

variable {Γ : Classes} {c d e : Context}

/-- Texts, flags and numbers are stored as they are. -/
theorem encode_of_isPrimitive {v : Value} (hv : v.isPrimitive = true) : Γ.encode v = .ok v := by
  unfold Classes.encode
  split
  · cases hv
  · rw [if_pos hv]

/-- A value that is not stored as it is, is stored as its JSON text. -/
theorem encode_of_not_isPrimitive {v : Value} (hn : v ≠ .null) (hv : v.isPrimitive = false) :
    Γ.encode v = (Γ.jsonTextOf v).map .jsonText := by
  unfold Classes.encode
  split
  · contradiction
  · rw [hv, if_neg Bool.false_ne_true]
    cases Γ.jsonTextOf v <;> rfl

/-- The stored form of a value is the value itself or a JSON text. -/
theorem encode_cases {v w : Value} (h : Γ.encode v = .ok w) :
    (w = v ∧ v.isPrimitive = true) ∨ ∃ s, w = .jsonText s := by
  unfold Classes.encode at h
  split at h
  · cases h
  · split_ifs at h with hp
    · cases h
      exact .inl ⟨rfl, hp⟩
    · split at h
      · cases h
        exact .inr ⟨_, rfl⟩
      · cases h

/-- A stored form is stored as it is. -/
theorem isPrimitive_of_encode {v w : Value} (h : Γ.encode v = .ok w) : w.isPrimitive = true := by
  obtain ⟨rfl, hp⟩ | ⟨s, rfl⟩ := encode_cases h
  · exact hp
  · rfl

/-- The stored form of a value of the program is one. -/
theorem admits_of_encode {v w : Value} (hv : Γ.Admits v) (h : Γ.encode v = .ok w) :
    Γ.Admits w := by
  obtain ⟨rfl, -⟩ | ⟨s, rfl⟩ := encode_cases h
  · exact hv
  · trivial

/-- The stored form of a value that is no NaN is none. -/
theorem isNan_of_encode {v w : Value} (hv : v.isNan = false) (h : Γ.encode v = .ok w) :
    w.isNan = false := by
  obtain ⟨rfl, -⟩ | ⟨s, rfl⟩ := encode_cases h
  · exact hv
  · rfl

/-! ### What writes come to -/

@[simp] theorem perform_mergeOne_null (key : String) (c : Context) :
    perform (mergeOne Γ key .null) c = (.ok false, c) := rfl

/-- A value is stored before it is compared with the one it replaces. -/
theorem perform_mergeOne {v : Value} (hv : v ≠ .null) (key : String) (c : Context) :
    perform (mergeOne Γ key v) c =
      match Γ.encode v with
      | .error f => (.error f, c)
      | .ok w =>
        (match get? c key with
          | none => .ok true
          | some u => (u.sameStored w).map (!·),
        put c key w) := by
  unfold mergeOne
  split
  · exact absurd rfl hv
  · simp only [perform_bind, perform_liftExcept, perform_get, perform_modify]
    cases Γ.encode v with
    | error f => rfl
    | ok w =>
      cases hg : get? c key with
      | none => simp [hg]
      | some u => simp [hg, perform_map]

@[simp] theorem perform_mergeEach_nil (c : Context) :
    perform (mergeEach Γ []) c = (.ok false, c) := rfl

/-- Values are merged one after the other, and the first one that fails is the last one. -/
theorem perform_mergeEach_cons (key : String) (v : Value) (rest : List (String × Value))
    (c : Context) :
    perform (mergeEach Γ ((key, v) :: rest)) c =
      match perform (mergeOne Γ key v) c with
      | (.error f, d) => (.error f, d)
      | (.ok first, d) =>
        match perform (mergeEach Γ rest) d with
        | (.error f, e) => (.error f, e)
        | (.ok others, e) => (.ok (first || others), e) := by
  rw [mergeEach, perform_bind]
  rcases perform (mergeOne Γ key v) c with ⟨_ | first, d⟩
  · rfl
  · simp only [perform_bind]
    rcases perform (mergeEach Γ rest) d with ⟨_ | others, e⟩ <;> rfl

/-- The context after writes: a write that fails is the last one. -/
theorem snd_mergeEach_cons (x : String × Value) (rest : List (String × Value)) (c : Context) :
    (perform (mergeEach Γ (x :: rest)) c).2 =
      if (perform (mergeOne Γ x.1 x.2) c).1.isOk then
        (perform (mergeEach Γ rest) (perform (mergeOne Γ x.1 x.2) c).2).2
      else (perform (mergeOne Γ x.1 x.2) c).2 := by
  rw [perform_mergeEach_cons]
  rcases perform (mergeOne Γ x.1 x.2) c with ⟨_ | first, d⟩
  · rfl
  · dsimp only
    rcases perform (mergeEach Γ rest) d with ⟨_ | others, e⟩ <;> rfl

/-! ### What writes keep -/

/-- What holds of the values under the keys of a context. -/
def Context.All (P : String → Value → Prop) (c : Context) : Prop :=
  ∀ k v, get? c k = some v → P k v

/-- The empty context holds nothing. -/
theorem Context.All.nil {P : String → Value → Prop} : Context.All P [] := by
  intro k v hv
  cases hv

/-- What holds of the values and of a new one holds when it has been put. -/
theorem Context.All.put {P : String → Value → Prop} {key : String} {w : Value} (hc : c.All P)
    (hw : P key w) : Context.All P (put c key w) := by
  intro k u hu
  rw [get?_put] at hu
  split_ifs at hu with h
  · cases hu
    exact h ▸ hw
  · exact hc k u hu

/-- What holds of the values and of a stored form holds when the value has been merged. -/
theorem Context.All.mergeOne {P : String → Value → Prop} {key : String} {v : Value}
    (hc : c.All P) (hv : ∀ w, Γ.encode v = .ok w → P key w) :
    (perform (mergeOne Γ key v) c).2.All P := by
  by_cases hn : v = .null
  · subst hn
    exact hc
  · rw [perform_mergeOne hn]
    cases he : Γ.encode v with
    | error f => exact hc
    | ok w => exact hc.put (hv w he)

/-- What holds of the values of a context and of the stored forms that are written to it holds
after the writes, whether they come to their end or fail. -/
theorem Context.All.mergeEach {P : String → Value → Prop} {es : List (String × Value)}
    (hc : c.All P) (hes : ∀ x ∈ es, ∀ w, Γ.encode x.2 = .ok w → P x.1 w) :
    (perform (mergeEach Γ es) c).2.All P := by
  induction es generalizing c with
  | nil => exact hc
  | cons x rest ih =>
    have h := hc.mergeOne (hes x List.mem_cons_self)
    rw [snd_mergeEach_cons]
    split_ifs
    · exact ih h fun y hy => hes y (List.mem_cons_of_mem _ hy)
    · exact h

/-- Putting a value keeps the keys. -/
theorem mem_keys_put {k : String} (hk : k ∈ keys c) (key : String) (w : Value) :
    k ∈ keys (put c key w) := by
  rw [keys_put]
  split_ifs
  · exact hk
  · exact List.mem_append_left _ hk

/-- Merging a value keeps the keys. -/
theorem mem_keys_mergeOne {k : String} (hk : k ∈ keys c) (key : String) (v : Value) :
    k ∈ keys (perform (mergeOne Γ key v) c).2 := by
  by_cases hn : v = .null
  · subst hn
    exact hk
  · rw [perform_mergeOne hn]
    cases Γ.encode v with
    | error f => exact hk
    | ok w => exact mem_keys_put hk key w

/-- No key goes by writes. -/
theorem mem_keys_mergeEach {k : String} (hk : k ∈ keys c) (es : List (String × Value)) :
    k ∈ keys (perform (mergeEach Γ es) c).2 := by
  induction es generalizing c with
  | nil => exact hk
  | cons x rest ih =>
    rw [snd_mergeEach_cons]
    split_ifs
    · exact ih (mem_keys_mergeOne hk x.1 x.2)
    · exact mem_keys_mergeOne hk x.1 x.2

/-- What writes leave of a context: no key goes, and a value that is not the one from before is
one that has been stored. -/
structure Context.Grows (Γ : Classes) (before after : Context) : Prop where
  keys : ∀ k ∈ keys before, k ∈ keys after
  values : after.All fun k w => get? before k = some w ∨ (w.isPrimitive = true ∧ Γ.Admits w)

/-- The values of a context are values of the declared classes. -/
def Context.Admitted (Γ : Classes) (c : Context) : Prop :=
  c.All fun _ v => Γ.Admits v

/-- Each context grows from itself. -/
theorem Context.Grows.refl (c : Context) : c.Grows Γ c :=
  ⟨fun _ h => h, fun _ _ h => .inl h⟩

/-- What grows from one that has grown, has grown. -/
theorem Context.Grows.trans (h : c.Grows Γ d) (h' : d.Grows Γ e) : c.Grows Γ e := by
  refine ⟨fun k hk => h'.keys k (h.keys k hk), fun k w hw => ?_⟩
  obtain hw | hw := h'.values k w hw
  · exact h.values k w hw
  · exact .inr hw

/-- A context that grows from values of the program holds such values alone. -/
theorem Context.Grows.admitted (h : c.Grows Γ d) (hc : c.Admitted Γ) : d.Admitted Γ := by
  intro k w hw
  obtain hw | hw := h.values k w hw
  · exact hc k w hw
  · exact hw.2

/-- A context grows when a value of the program is merged. -/
theorem grows_mergeOne {v : Value} (hv : Γ.Admits v) (key : String) (c : Context) :
    c.Grows Γ (perform (mergeOne Γ key v) c).2 :=
  ⟨fun _ hk => mem_keys_mergeOne hk key v, (Context.Grows.refl c).values.mergeOne fun _ hw =>
    .inr ⟨isPrimitive_of_encode hw, admits_of_encode hv hw⟩⟩

/-- A context grows when values of the program are merged one after the other. -/
theorem grows_mergeEach {es : List (String × Value)} (hes : ∀ x ∈ es, Γ.Admits x.2)
    (c : Context) : c.Grows Γ (perform (mergeEach Γ es) c).2 :=
  ⟨fun _ hk => mem_keys_mergeEach hk es, (Context.Grows.refl c).values.mergeEach fun x hx _ hw =>
    .inr ⟨isPrimitive_of_encode hw, admits_of_encode (hes x hx) hw⟩⟩

/-- A context grows when values of the program are merged at once. -/
theorem grows_mergeMany {es : List (String × Value)} (hes : ∀ x ∈ es, Γ.Admits x.2)
    (c : Context) : c.Grows Γ (perform (mergeMany Γ es) c).2 :=
  grows_mergeEach (Γ.admits_inTurn hes) c

/-! ### Contexts that differ -/

/-- A context differs from an earlier one if a key is new, or has a value of another kind or one
that is not equal. -/
def Context.Differs (before after : Context) : Prop :=
  ∃ k w, get? after k = some w ∧ ∀ v, get? before k = some v → ¬ v.Same w

/-- A context does not differ from a later one if each value of that one was there and the same. -/
theorem not_differs_iff : ¬ c.Differs d ↔
    ∀ k w, get? d k = some w → ∃ v, get? c k = some v ∧ v.Same w := by
  simp only [Context.Differs, not_exists, not_and, not_forall, not_not, exists_prop]

/-- No context differs from itself. -/
theorem not_differs_refl (c : Context) : ¬ c.Differs c :=
  not_differs_iff.mpr fun _ w hw => ⟨w, hw, .refl w⟩

/-- A context that does not differ from one that does not differ from a third does not differ
from the third. -/
theorem not_differs_trans (hc : c.Admitted Γ) (hcd : c.Grows Γ d) (hde : d.Grows Γ e)
    (h : ¬ c.Differs d) (h' : ¬ d.Differs e) : ¬ c.Differs e := by
  rw [not_differs_iff] at *
  intro k w hw
  obtain ⟨u, hu, huw⟩ := h' k w hw
  obtain ⟨v, hv, hvu⟩ := h k u hu
  refine ⟨v, hv, ?_⟩
  obtain hd | ⟨hpw, hΓw⟩ := hde.values k w hw
  · rw [hu] at hd
    exact Option.some.inj hd ▸ hvu
  have hΓv := hc k v hv
  have hΓu := hcd.admitted hc k u hu
  exact hvu.trans hΓv hΓu hΓw (huw.isPrimitive hΓu hΓw hpw) hpw huw

/-- Two contexts that do not differ from an earlier one do not differ from each other. -/
theorem not_differs_of_not_differs (hc : c.Admitted Γ) (hcd : c.Grows Γ d) (hde : d.Grows Γ e)
    (h : ¬ c.Differs d) (h' : ¬ c.Differs e) : ¬ d.Differs e := by
  rw [not_differs_iff] at *
  intro k w hw
  obtain ⟨v, hv, hvw⟩ := h' k w hw
  obtain ⟨u, hu⟩ := mem_keys_iff.mp (hcd.keys k (mem_keys_iff.mpr ⟨v, hv⟩))
  obtain ⟨v', hv', hvu⟩ := h k u hu
  obtain rfl : v = v' := Option.some.inj (hv.symm.trans hv')
  refine ⟨u, hu, ?_⟩
  obtain hd | ⟨hpw, hΓw⟩ := hde.values k w hw
  · rw [hu] at hd
    exact Option.some.inj hd ▸ .refl u
  have hΓv := hc k v hv
  have hpv := hvw.isPrimitive hΓv hΓw hpw
  obtain hu' | ⟨hpu, hΓu⟩ := hcd.values k u hu
  · rw [hv] at hu'
    exact Option.some.inj hu' ▸ hvw
  exact (hvu.symm hΓv hΓu hpu).trans hΓu hΓv hΓw hpv hpw hvw

/-- Writing the value that a key has, or one that is the same, is no difference. -/
theorem not_differs_put {key : String} {v w : Value} (hv : get? c key = some v) (h : v.Same w) :
    ¬ c.Differs (put c key w) := by
  rw [not_differs_iff]
  intro k u hu
  rw [get?_put] at hu
  split_ifs at hu with hk
  · subst hk
    cases hu
    exact ⟨v, hv, h⟩
  · exact ⟨u, hu, .refl u⟩

/-- Values that are the same in storage are of one kind and equal. -/
theorem kind_and_equals_of_sameStored {v w : Value} (h : v.sameStored w = .ok true) :
    v.storageKind = w.storageKind ∧ v.equals w = true := by
  unfold Value.sameStored at h
  split_ifs at h with hk hs
  · cases h
  · exact ⟨not_not.mp hk, Except.ok.inj h⟩

/-- A write that reports no change has written nothing, or replaced a value by one of its kind
that is equal. -/
theorem mergeOne_unchanged_cases {key : String} {v : Value}
    (h : perform (mergeOne Γ key v) c = (.ok false, d)) :
    (v = .null ∧ d = c) ∨ ∃ u w, get? c key = some u ∧ Γ.encode v = .ok w ∧
      u.storageKind = w.storageKind ∧ u.equals w = true ∧ d = put c key w := by
  by_cases hn : v = .null
  · subst hn
    cases h
    exact .inl ⟨rfl, rfl⟩
  · rw [perform_mergeOne hn] at h
    split at h
    · cases h
    · rename_i w hw
      split at h
      · cases h
      · rename_i u hu
        simp only [Prod.mk.injEq] at h
        obtain ⟨hs, rfl⟩ := h
        cases hs' : u.sameStored w with
        | error f => simp [hs', Except.map] at hs
        | ok b =>
          have hb : b = true := by simpa [hs', Except.map] using hs
          obtain ⟨hk, he⟩ := kind_and_equals_of_sameStored (hb ▸ hs')
          exact .inr ⟨u, w, hu, hw, hk, he, rfl⟩

/-- A value that is written without a change is the same as the one before. -/
theorem not_differs_of_mergeOne {key : String} {v : Value}
    (h : perform (mergeOne Γ key v) c = (.ok false, d)) : ¬ c.Differs d := by
  obtain ⟨-, rfl⟩ | ⟨u, w, hu, -, hk, he, rfl⟩ := mergeOne_unchanged_cases h
  · exact not_differs_refl _
  · exact not_differs_put hu (.inr ⟨hk, he⟩)

/-- A merge that reports no change makes the context no different one. -/
theorem not_differs_of_mergeEach {es : List (String × Value)} (hc : c.Admitted Γ)
    (hes : ∀ x ∈ es, Γ.Admits x.2) (h : perform (mergeEach Γ es) c = (.ok false, d)) :
    ¬ c.Differs d := by
  induction es generalizing c with
  | nil =>
    cases h
    exact not_differs_refl _
  | cons x rest ih =>
    have hrest : ∀ y ∈ rest, Γ.Admits y.2 := fun y hy => hes y (List.mem_cons_of_mem _ hy)
    rw [perform_mergeEach_cons] at h
    split at h
    · cases h
    · rename_i first e h1
      split at h
      · cases h
      · rename_i others e' h2
        simp only [Prod.mk.injEq, Except.ok.injEq, Bool.or_eq_false_iff] at h
        obtain ⟨⟨rfl, rfl⟩, rfl⟩ := h
        have hce : c.Grows Γ e := by
          simpa [h1] using grows_mergeOne (hes x List.mem_cons_self) x.1 c
        have hed : e.Grows Γ e' := by simpa [h2] using grows_mergeEach hrest e
        exact not_differs_trans hc hce hed (not_differs_of_mergeOne h1)
          (ih (hce.admitted hc) hrest h2)

/-- **Values that are written without a change leave a context that does not differ.** -/
theorem not_differs_of_mergeMany {es : List (String × Value)} (hc : c.Admitted Γ)
    (hes : ∀ x ∈ es, Γ.Admits x.2) (h : perform (mergeMany Γ es) c = (.ok false, d)) :
    ¬ c.Differs d :=
  not_differs_of_mergeEach hc (Γ.admits_inTurn hes) h

/-! ### Writes that fail -/

/-- A signalling NaN is a NaN. -/
theorem isNan_of_isSignalling {v : Value} (h : v.isSignalling = true) : v.isNan = true := by
  cases v with
  | decimal x => cases x <;> simp_all [Value.isSignalling, Number.Decimal.isSignalling,
      Value.isNan, Value.quantity?, Number.Decimal.quantity, Number.Decimal.toRat?]
  | _ => simp [Value.isSignalling] at h

/-- What is no NaN is no signalling one. -/
theorem isSignalling_eq_false_of_isNan {v : Value} (hv : v.isNan = false) :
    v.isSignalling = false := by
  by_contra h
  rw [isNan_of_isSignalling (by simpa using h)] at hv
  cases hv

/-- Values that do not refuse it are compared by kind and by equality. -/
theorem sameStored_eq {v w : Value} (hv : v.isSignalling = false) (hw : w.isSignalling = false) :
    v.sameStored w = .ok (decide (v.storageKind = w.storageKind) && v.equals w) := by
  unfold Value.sameStored
  split_ifs with hk hs
  · simp [hk]
  · simp [hv, hw] at hs
  · simp [not_not.mp hk]

/-- Values can be compared unless one of them is a NaN. -/
theorem exists_sameStored {v w : Value} (hv : v.isNan = false) (hw : w.isNan = false) :
    ∃ b, v.sameStored w = .ok b :=
  ⟨_, sameStored_eq (isSignalling_eq_false_of_isNan hv) (isSignalling_eq_false_of_isNan hw)⟩

/-- A context without a NaN. -/
def Context.NoNan (c : Context) : Prop :=
  c.All fun _ v => v.isNan = false

/-- A value that is there and has no stored form. -/
def Classes.Rejects (Γ : Classes) (v : Value) : Prop :=
  v ≠ .null ∧ ∃ f, Γ.encode v = .error f

/-- A single write of a value without a stored form fails before anything is written. -/
theorem perform_mergeOne_of_rejects {v : Value} (h : Γ.Rejects v) (key : String) (c : Context) :
    ∃ f, perform (mergeOne Γ key v) c = (.error f, c) := by
  obtain ⟨hn, f, hf⟩ := h
  exact ⟨f, by rw [perform_mergeOne hn, hf]⟩

/-- Without a NaN, a single write fails only for a value without a stored form. -/
theorem rejects_of_mergeOne {key : String} {v : Value} {f : Failure} (hc : c.NoNan)
    (hv : v.isNan = false) (h : (perform (mergeOne Γ key v) c).1 = .error f) : Γ.Rejects v := by
  have hn : v ≠ .null := by
    rintro rfl
    cases h
  refine ⟨hn, ?_⟩
  rw [perform_mergeOne hn] at h
  cases he : Γ.encode v with
  | error g => exact ⟨g, rfl⟩
  | ok w =>
    rw [he] at h
    cases hg : get? c key with
    | none => simp [hg] at h
    | some u =>
      obtain ⟨b, hb⟩ := exists_sameStored (hc key u hg) (isNan_of_encode hv he)
      simp [hg, hb, Except.map] at h

/-- Merging a value that is no NaN brings none into the context. -/
theorem Context.NoNan.mergeOne {v : Value} (hc : c.NoNan) (hv : v.isNan = false)
    (key : String) : (perform (mergeOne Γ key v) c).2.NoNan :=
  Context.All.mergeOne hc fun _ hw => isNan_of_encode hv hw

/-- Merging values without NaN one after the other brings none into the context. -/
theorem Context.NoNan.mergeEach {es : List (String × Value)} (hc : c.NoNan)
    (hes : ∀ x ∈ es, x.2.isNan = false) : (perform (mergeEach Γ es) c).2.NoNan :=
  Context.All.mergeEach hc fun x hx _ hw => isNan_of_encode (hes x hx) hw

/-- Merging values without NaN at once brings none into the context. -/
theorem Context.NoNan.mergeMany {es : List (String × Value)} (hc : c.NoNan)
    (hes : ∀ x ∈ es, x.2.isNan = false) : (perform (mergeMany Γ es) c).2.NoNan :=
  hc.mergeEach (Γ.isNan_inTurn hes)

/-- Merging ends at the first value that is rejected, with what the values before it have made. -/
theorem perform_mergeEach_of_rejects {x : String × Value} (hx : Γ.Rejects x.2)
    {done : List (String × Value)} {b : Bool} (h : perform (mergeEach Γ done) c = (.ok b, d))
    (rest : List (String × Value)) :
    ∃ f, perform (mergeEach Γ (done ++ x :: rest)) c = (.error f, d) := by
  induction done generalizing c b with
  | nil =>
    cases h
    obtain ⟨f, hf⟩ := perform_mergeOne_of_rejects hx x.1 d
    exact ⟨f, by rw [List.nil_append, perform_mergeEach_cons, hf]⟩
  | cons y done ih =>
    rw [perform_mergeEach_cons] at h
    split at h
    · cases h
    · rename_i first c' h1
      split at h
      · cases h
      · rename_i others d' h2
        cases h
        obtain ⟨f, hf⟩ := ih h2
        exact ⟨f, by rw [List.cons_append, perform_mergeEach_cons, h1]; simp [hf]⟩

/-- Merging into a context without NaN fails only by a value that is rejected, after the values
before it. -/
theorem rejects_of_mergeEach {es : List (String × Value)} {f : Failure} (hc : c.NoNan)
    (hes : ∀ x ∈ es, x.2.isNan = false) (h : perform (mergeEach Γ es) c = (.error f, d)) :
    ∃ done x rest, es = done ++ x :: rest ∧ Γ.Rejects x.2 ∧
      ∃ b, perform (mergeEach Γ done) c = (.ok b, d) := by
  induction es generalizing c with
  | nil => cases h
  | cons x rest ih =>
    have hx := hes x List.mem_cons_self
    rw [perform_mergeEach_cons] at h
    split at h
    · rename_i g c' h1
      have hr : Γ.Rejects x.2 := rejects_of_mergeOne hc hx (by rw [h1])
      obtain ⟨g', hg'⟩ := perform_mergeOne_of_rejects hr x.1 c
      rw [hg'] at h1
      cases h1
      cases h
      exact ⟨[], x, rest, rfl, hr, false, rfl⟩
    · rename_i first c' h1
      have hc' : c'.NoNan := by simpa [h1] using hc.mergeOne (Γ := Γ) hx x.1
      split at h
      · rename_i g d' h2
        cases h
        obtain ⟨done, y, rest', rfl, hy, b, hb⟩ :=
          ih hc' (fun z hz => hes z (List.mem_cons_of_mem _ hz)) h2
        exact ⟨x :: done, y, rest', rfl, hy, first || b,
          by rw [perform_mergeEach_cons, h1]; simp [hb]⟩
      · cases h

/-- Writes end at a value that has no stored form when its turn comes, and keep what was written
before it. -/
theorem perform_mergeMany_of_rejects {done : List (String × Value)} {x : String × Value}
    (hx : Γ.Rejects (x.2.drained (Γ.usedUpBy done))) {b : Bool}
    (h : perform (mergeMany Γ done) c = (.ok b, d)) (rest : List (String × Value)) :
    ∃ f, perform (mergeMany Γ (done ++ x :: rest)) c = (.error f, d) := by
  rw [mergeMany, Classes.inTurn_append, Classes.inTurn, List.nil_append]
  exact perform_mergeEach_of_rejects (x := (x.1, x.2.drained (Γ.usedUpBy done))) hx h _

/-- Without a NaN, writes that fail do so at a value that has no stored form when its turn comes. -/
theorem rejects_of_mergeMany {es : List (String × Value)} {f : Failure} (hc : c.NoNan)
    (hes : ∀ x ∈ es, x.2.isNan = false) (h : perform (mergeMany Γ es) c = (.error f, d)) :
    ∃ done x rest, es = done ++ x :: rest ∧ Γ.Rejects (x.2.drained (Γ.usedUpBy done)) ∧
      ∃ b, perform (mergeMany Γ done) c = (.ok b, d) := by
  obtain ⟨done', x', rest', heq, hx, hb⟩ := rejects_of_mergeEach hc (Γ.isNan_inTurn hes) h
  obtain ⟨done, x, rest, rfl, rfl, hvalue⟩ := Classes.exists_of_inTurn_eq_append heq
  rw [hvalue, List.nil_append] at hx
  exact ⟨done, x, rest, rfl, hx, hb⟩

end Carryover
