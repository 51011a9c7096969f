import Carryover.Proofs.Stored.Leftover

/-!
# What merging comes to

Values that are merged into a context are laid over it in their stored forms: a key that is there
keeps its place, and the new ones come last (`perform_mergeEach_stored`). The writes are made one
after the other and each compares with the value it finds, but no key is written twice, so that
value is the one from before the first write. The result therefore says which keys differ between
the first and the last context (`Context.ChangedAt`).

A value is stored as the values before it have left it. So the order of the entries tells nothing
but the order of new keys, as long as no two values hold one iterator (`mergeMany_overwrites`). The
first of two that do leaves the other one an empty list (`not_mergeMany_reordered`).

A value that is merged a second time finds itself (`mergeOne_again`):

| value | second result |
| --- | --- |
| a number that is no NaN, a flag, a text, a JSON text | no change |
| a NaN, which is not equal to itself | a change |
| a signalling NaN | refused |
| a value with iterators that had something left | a change, and what is left of it is stored |
-/

namespace Carryover

open Entries

variable {Γ : Classes} {c d : Context}

/-- A context in which no value refuses comparison. -/
def Context.NoSignalling (c : Context) : Prop :=
  c.All fun _ v => v.isSignalling = false

/-- The stored forms of the values that are there, under their keys. -/
def Classes.storedForms (Γ : Classes) (es : List (String × Value)) : Context :=
  es.filterMap fun (key, v) => (Γ.encode v).toOption.map (key, ·)

/-- Whether a key is new in a later context, or its value is of another kind or not equal. -/
def Context.ChangedAt (before after : Context) (key : String) : Prop :=
  get? before key = none ∨ ∃ u w, get? before key = some u ∧ get? after key = some w ∧
    (u.storageKind ≠ w.storageKind ∨ u.equals w = false)

/-- Whether a key has changed depends on its values before and after alone. -/
theorem Context.changedAt_congr {c' d' : Context} {key : String} (hc : get? c key = get? c' key)
    (hd : get? d key = get? d' key) : c.ChangedAt d key ↔ c'.ChangedAt d' key := by
  rw [ChangedAt, ChangedAt, hc, hd]

/-! ### Stored forms -/

/-- What is not stored as it is, is no NaN. -/
theorem isNan_of_isPrimitive_eq_false {v : Value} (hv : v.isPrimitive = false) :
    v.isNan = false := by
  cases v with
  | member c m n w =>
    cases m with
    | int => cases hv
    | _ => rfl
  | bool | int | float | complex | decimal | fraction => cases hv
  | _ => rfl

/-- The stored form of a value is a NaN, or a signalling one, exactly if the value is. -/
theorem isNan_eq_of_encode {v w : Value} (h : Γ.encode v = .ok w) :
    w.isNan = v.isNan ∧ w.isSignalling = v.isSignalling := by
  obtain ⟨rfl, -⟩ | ⟨t, rfl⟩ := encode_cases h
  · exact ⟨rfl, rfl⟩
  cases hp : v.isPrimitive with
  | true =>
    obtain rfl : v = .jsonText t := by
      rw [encode_of_isPrimitive hp] at h
      exact Except.ok.inj h
    exact ⟨rfl, rfl⟩
  | false =>
    have hnan := isNan_of_isPrimitive_eq_false hp
    exact ⟨hnan.symm, (isSignalling_eq_false_of_isNan hnan).symm⟩

/-- The stored form of a value that is no signalling NaN is none. -/
theorem isSignalling_of_encode {v w : Value} (hv : v.isSignalling = false)
    (h : Γ.encode v = .ok w) : w.isSignalling = false :=
  (isNan_eq_of_encode h).2.trans hv

/-- A value that is not rejected is absent or has a stored form. -/
theorem exists_encode_of_not_rejects {v : Value} (h : ¬ Γ.Rejects v) (hn : v ≠ .null) :
    ∃ w, Γ.encode v = .ok w := by
  cases he : Γ.encode v with
  | error f => exact absurd ⟨hn, f, he⟩ h
  | ok w => exact ⟨w, rfl⟩

namespace Classes

/-- An absent value has no stored form. -/
theorem storedForms_cons_null (key : String) (es : List (String × Value)) :
    Γ.storedForms ((key, .null) :: es) = Γ.storedForms es := rfl

/-- The stored form of the first value comes first. -/
theorem storedForms_cons {v w : Value} (h : Γ.encode v = .ok w) (key : String)
    (es : List (String × Value)) :
    Γ.storedForms ((key, v) :: es) = (key, w) :: Γ.storedForms es := by
  simp [storedForms, h, Except.toOption]

/-- Values with the same stored forms can take each other's place. -/
theorem storedForms_cons_congr {key : String} {v w : Value} {es fs : List (String × Value)}
    (h : Γ.encode v = Γ.encode w) (htail : Γ.storedForms es = Γ.storedForms fs) :
    Γ.storedForms ((key, v) :: es) = Γ.storedForms ((key, w) :: fs) := by
  unfold storedForms at htail ⊢
  rw [List.filterMap_cons, List.filterMap_cons]
  dsimp only
  rw [h, htail]

/-- Stored forms stand under keys of the entries, in their order. -/
theorem keys_storedForms_sublist (es : List (String × Value)) :
    (keys (Γ.storedForms es)).Sublist (keys es) := by
  induction es with
  | nil => exact .slnil
  | cons x es ih =>
    obtain ⟨key, v⟩ := x
    cases h : Γ.encode v with
    | error f =>
      have hskip : Γ.storedForms ((key, v) :: es) = Γ.storedForms es := by
        simp [storedForms, h, Except.toOption]
      rw [hskip]
      exact ih.cons key
    | ok w =>
      rw [storedForms_cons h]
      exact ih.cons_cons key

/-- Values in another order have their stored forms in another order. -/
theorem storedForms_perm {es es' : List (String × Value)} (h : es'.Perm es) :
    (Γ.storedForms es').Perm (Γ.storedForms es) :=
  h.filterMap _

end Classes

/-! ### Several values -/

/-- A value with a stored form is written, and the result says whether its key has changed. -/
theorem perform_mergeOne_stored (key : String) {v w : Value} (hw : Γ.encode v = .ok w)
    (hc : c.NoSignalling) (hv : v.isSignalling = false) :
    ∃ changed, perform (mergeOne Γ key v) c = (.ok changed, put c key w) ∧
      (changed = true ↔ c.ChangedAt (put c key w) key) := by
  have hn : v ≠ .null := by
    rintro rfl
    cases hw
  have hafter : get? (put c key w) key = some w := by rw [get?_put, if_pos rfl]
  rw [perform_mergeOne hn, hw]
  cases hg : get? c key with
  | none => exact ⟨true, rfl, by simp [Context.ChangedAt, hg]⟩
  | some u =>
    have hsame := sameStored_eq (hc key u hg) (isSignalling_of_encode hv hw)
    refine ⟨_, congrArg (fun r => (Except.map (!·) r, put c key w)) hsame, ?_⟩
    simp [Context.ChangedAt, hg, hafter]

/-- **Values with stored forms are laid over the context**, and the result says whether one of
their keys has changed. -/
theorem perform_mergeEach_stored {es : List (String × Value)} (hc : c.NoSignalling)
    (hes : (keys es).Nodup) (hstored : ∀ x ∈ es, ¬ Γ.Rejects x.2)
    (hquiet : ∀ x ∈ es, x.2.isSignalling = false) :
    ∃ changed, perform (mergeEach Γ es) c = (.ok changed, putAll c (Γ.storedForms es)) ∧
      (changed = true ↔ ∃ x ∈ es, x.2 ≠ .null ∧
        c.ChangedAt (putAll c (Γ.storedForms es)) x.1) := by
  induction es generalizing c with
  | nil => exact ⟨false, rfl, by simp⟩
  | cons x rest ih =>
    obtain ⟨key, v⟩ := x
    obtain ⟨hkey, hrest⟩ := List.nodup_cons.mp hes
    rw [List.forall_mem_cons] at hstored hquiet
    rw [perform_mergeEach_cons]
    by_cases hn : v = .null
    · subst hn
      obtain ⟨others, hperform, hothers⟩ := ih hc hrest hstored.2 hquiet.2
      refine ⟨others, ?_, ?_⟩
      · simp [Classes.storedForms_cons_null, hperform]
      · simp [Classes.storedForms_cons_null, hothers]
    · obtain ⟨w, hw⟩ := exists_encode_of_not_rejects hstored.1 hn
      obtain ⟨first, hone, hfirst⟩ := perform_mergeOne_stored key hw hc hquiet.1
      have hput : Context.NoSignalling (put c key w) :=
        Context.All.put hc (isSignalling_of_encode hquiet.1 hw)
      obtain ⟨others, hperform, hothers⟩ := ih hput hrest hstored.2 hquiet.2
      have hlast : get? (putAll (put c key w) (Γ.storedForms rest)) key =
          get? (put c key w) key :=
        get?_putAll_of_not_mem (fun h => hkey ((Classes.keys_storedForms_sublist rest).subset h)) _
      -- the keys of the rest are not the one that has been written
      have hbefore : ∀ x ∈ rest, get? (put c key w) x.1 = get? c x.1 := by
        intro x hx
        rw [get?_put, if_neg (ne_of_mem_of_not_mem_keys hx hkey).symm]
      rw [Classes.storedForms_cons hw, putAll_cons, hone]
      refine ⟨first || others, by simp [hperform], ?_⟩
      rw [Bool.or_eq_true, hfirst, hothers, List.exists_mem_cons_iff]
      refine or_congr ?_
        (exists_congr fun x => and_congr_right fun hx => and_congr_right fun _ => ?_)
      · rw [Context.changedAt_congr rfl hlast]
        exact (and_iff_right hn).symm
      · exact Context.changedAt_congr (hbefore x hx) rfl

/-! ### Values in turn -/

namespace Classes

/-- Whether no iterator is run through to store two of several values. -/
def Apart (Γ : Classes) (es : List (String × Value)) : Prop :=
  ∀ x ∈ es, ∀ y ∈ es, x.1 ≠ y.1 → ∀ m ∈ Γ.usedUp x.2, m ∉ Γ.usedUp y.2

/-- Values that share no iterator share none in another order. -/
theorem Apart.of_perm {es es' : List (String × Value)} (h : Γ.Apart es) (hperm : es'.Perm es) :
    Γ.Apart es' :=
  fun x hx y hy => h x (hperm.mem_iff.mp hx) y (hperm.mem_iff.mp hy)

/-- Values that share no iterator have the stored forms in turn that each of them has alone. -/
theorem storedForms_inTurn {es : List (String × Value)} (used : List Nat)
    (hes : (keys es).Nodup) (h : Γ.Apart es)
    (hused : ∀ x ∈ es, ∀ m ∈ Γ.usedUp x.2, m ∉ used) :
    Γ.storedForms (Γ.inTurn used es) = Γ.storedForms es := by
  induction es generalizing used with
  | nil => rfl
  | cons x rest ih =>
    obtain ⟨key, v⟩ := x
    obtain ⟨hkey, hrest⟩ := List.nodup_cons.mp hes
    rw [List.forall_mem_cons] at hused
    have hapart : Γ.Apart rest := fun x hx y hy =>
      h x (List.mem_cons_of_mem _ hx) y (List.mem_cons_of_mem _ hy)
    have htail := ih (used ++ Γ.usedUp v) hrest hapart fun x hx m hm => by
      rw [List.mem_append, not_or]
      exact ⟨hused.2 x hx m hm, h x (List.mem_cons_of_mem _ hx) (key, v) List.mem_cons_self
        (ne_of_mem_of_not_mem_keys hx hkey) m hm⟩
    rw [inTurn]
    exact storedForms_cons_congr (encode_drained hused.1) htail

/-- What is not rejected is not rejected in turn. -/
theorem not_rejects_inTurn {es : List (String × Value)} (hes : ∀ x ∈ es, ¬ Γ.Rejects x.2) :
    ∀ x ∈ Γ.inTurn [] es, ¬ Γ.Rejects x.2 := by
  refine forall_mem_inTurn (P := fun _ v => ¬ Γ.Rejects v) (fun _ v marks hv => ?_) hes []
  rintro ⟨hn, f, hf⟩
  obtain ⟨w, hw⟩ := exists_encode_of_not_rejects hv (mt Value.drained_eq_null_iff.mpr hn)
  obtain ⟨w', hw'⟩ := exists_encode_drained marks hw
  rw [hf] at hw'
  cases hw'

/-- No value becomes a signalling NaN before its turn. -/
theorem isSignalling_inTurn {es : List (String × Value)}
    (hes : ∀ x ∈ es, x.2.isSignalling = false) :
    ∀ x ∈ Γ.inTurn [] es, x.2.isSignalling = false :=
  forall_mem_inTurn (P := fun _ v => v.isSignalling = false)
    (fun _ v _ hv => (v.isSignalling_drained).trans hv) hes []

/-- The keys of the values that are there are the same in turn. -/
theorem exists_mem_inTurn_iff {P : String → Prop} (used : List Nat) (es : List (String × Value)) :
    (∃ x ∈ Γ.inTurn used es, x.2 ≠ .null ∧ P x.1) ↔ ∃ x ∈ es, x.2 ≠ .null ∧ P x.1 := by
  induction es generalizing used with
  | nil => rfl
  | cons x rest ih =>
    rw [inTurn, List.exists_mem_cons_iff, List.exists_mem_cons_iff, ih]
    simp only [ne_eq, Value.drained_eq_null_iff]

end Classes

/-- Values are laid over the context as they are when their turn comes. -/
theorem perform_mergeMany_stored {es : List (String × Value)} (hc : c.NoSignalling)
    (hes : (keys es).Nodup) (hstored : ∀ x ∈ es, ¬ Γ.Rejects x.2)
    (hquiet : ∀ x ∈ es, x.2.isSignalling = false) :
    ∃ changed, perform (mergeMany Γ es) c =
        (.ok changed, putAll c (Γ.storedForms (Γ.inTurn [] es))) ∧
      (changed = true ↔ ∃ x ∈ es, x.2 ≠ .null ∧
        c.ChangedAt (putAll c (Γ.storedForms (Γ.inTurn [] es))) x.1) := by
  obtain ⟨changed, hperform, hchanged⟩ := perform_mergeEach_stored hc
    (by rwa [Classes.keys_inTurn]) (Classes.not_rejects_inTurn hstored)
    (Classes.isSignalling_inTurn hquiet)
  exact ⟨changed, hperform, hchanged.trans (Classes.exists_mem_inTurn_iff [] es)⟩

/-- **Merging lays the stored forms over the context**: a key that is there keeps its place, a new
one comes last in the order of the entries, and all else stays. The result says whether a key is
new, or its value afterwards is of another kind than before or not equal to it. If no two of the
values share an iterator, their stored forms are those that they have alone, and in another order
the entries give the same result and the same value under each key. -/
theorem mergeMany_overwrites {es : List (String × Value)} (hc : (keys c).Nodup)
    (hes : (keys es).Nodup) (hstored : ∀ x ∈ es, ¬ Γ.Rejects x.2)
    (hcquiet : ∀ x ∈ c, x.2.isSignalling = false)
    (hquiet : ∀ x ∈ es, x.2.isSignalling = false) :
    ∃ changed d, perform (mergeMany Γ es) c = (.ok changed, d) ∧
      d = overwrite c (Γ.storedForms (Γ.inTurn [] es)) ∧
      (changed = true ↔ ∃ x ∈ es, x.2 ≠ .null ∧ c.ChangedAt d x.1) ∧
      (Γ.Apart es → d = overwrite c (Γ.storedForms es) ∧
        ∀ es', es'.Perm es → ∃ d', perform (mergeMany Γ es') c = (.ok changed, d') ∧
          ∀ key, get? d' key = get? d key) := by
  have hall : c.NoSignalling := fun key v hv => hcquiet (key, v) (mem_of_get? hv)
  have hnodup {fs : List (String × Value)} (hfs : (keys fs).Nodup) :
      (keys (Γ.storedForms fs)).Nodup := hfs.sublist (Classes.keys_storedForms_sublist fs)
  have hturn : (keys (Γ.inTurn [] es)).Nodup := by rwa [Classes.keys_inTurn]
  obtain ⟨changed, hperform, hchanged⟩ := perform_mergeMany_stored hall hes hstored hquiet
  refine ⟨changed, _, hperform, putAll_eq_overwrite hc (hnodup hturn), hchanged, fun hapart => ?_⟩
  have hforms := Classes.storedForms_inTurn [] hes hapart fun _ _ _ _ => List.not_mem_nil
  refine ⟨by rw [hforms, putAll_eq_overwrite hc (hnodup hes)], fun es' hperm => ?_⟩
  have hes' : (keys es').Nodup := (hperm.map Prod.fst).nodup_iff.mpr hes
  have hforms' := Classes.storedForms_inTurn [] hes' (hapart.of_perm hperm)
    fun _ _ _ _ => List.not_mem_nil
  obtain ⟨changed', hperform', hchanged'⟩ := perform_mergeMany_stored hall hes'
    (fun x hx => hstored x (hperm.mem_iff.mp hx)) (fun x hx => hquiet x (hperm.mem_iff.mp hx))
  rw [hforms] at hchanged ⊢
  rw [hforms'] at hperform' hchanged'
  have hvalues : ∀ key, get? (putAll c (Γ.storedForms es')) key =
      get? (putAll c (Γ.storedForms es)) key := by
    intro key
    rw [get?_putAll (hnodup hes), get?_putAll (hnodup hes'),
      get?_eq_of_perm (hnodup hes) (Classes.storedForms_perm hperm) key]
  have heq : changed' = changed := by
    rw [Bool.eq_iff_iff, hchanged, hchanged']
    refine exists_congr fun x => and_congr hperm.mem_iff (and_congr_right fun _ => ?_)
    exact Context.changedAt_congr rfl (hvalues x.1)
  exact ⟨_, heq ▸ hperform', hvalues⟩

/-- A context with a NaN, a plain text that looks like JSON, and a flag. -/
def ledger : Context :=
  [("rate", .float .nan), ("tags", .text "[1]"), ("paid", .bool true)]

/-- An iterator over a number. -/
def visits : Value :=
  .iterator "list_iterator" 0 [.int 1]

/-- Entries for the ledger: the tags are the same, the note is absent, the visits are new, the flag
becomes a number, and the rate is the same NaN. -/
def ledgerEntries : List (String × Value) :=
  [("tags", .row .list [.int 1]), ("note", .null), ("visits", visits), ("paid", .int 1),
    ("rate", .float .nan)]

theorem not_rejects_visits : ¬ Classes.Rejects {} visits := by
  rintro ⟨-, f, hf⟩
  cases hf

theorem mergeMany_overwrites_ledger :
    (keys ledger).Nodup ∧ (keys ledgerEntries).Nodup ∧
      (∀ x ∈ ledgerEntries, ¬ Classes.Rejects {} x.2) ∧
      (∀ x ∈ ledger, x.2.isSignalling = false) ∧
      (∀ x ∈ ledgerEntries, x.2.isSignalling = false) ∧ Classes.Apart {} ledgerEntries ∧
      ∃ changed d, perform (mergeMany {} ledgerEntries) ledger = (.ok changed, d) ∧
        d = overwrite ledger (Classes.storedForms {} (Classes.inTurn {} [] ledgerEntries)) ∧
        (changed = true ↔ ∃ x ∈ ledgerEntries, x.2 ≠ .null ∧ ledger.ChangedAt d x.1) ∧
        (Classes.Apart {} ledgerEntries →
          d = overwrite ledger (Classes.storedForms {} ledgerEntries) ∧
          ∀ es', es'.Perm ledgerEntries →
            ∃ d', perform (mergeMany {} es') ledger = (.ok changed, d') ∧
              ∀ key, get? d' key = get? d key) := by
  have hc : (keys ledger).Nodup := by decide
  have hes : (keys ledgerEntries).Nodup := by decide
  have hstored : ∀ x ∈ ledgerEntries, ¬ Classes.Rejects {} x.2 := by
    simp only [ledgerEntries, List.forall_mem_cons]
    refine ⟨?_, ?_, not_rejects_visits, ?_, ?_, List.forall_mem_nil _⟩
    all_goals
      rintro ⟨hn, f, hf⟩
      first
        | exact hn rfl
        | cases hf
  have hcquiet : ∀ x ∈ ledger, x.2.isSignalling = false := by decide
  have hquiet : ∀ x ∈ ledgerEntries, x.2.isSignalling = false := by decide
  -- the visits alone hold an iterator
  have hused : ∀ x ∈ ledgerEntries, x.1 = "visits" ∨ Classes.usedUp {} x.2 = [] := by
    simp only [ledgerEntries, List.forall_mem_cons]
    exact ⟨.inr rfl, .inr rfl, .inl trivial, .inr rfl, .inr rfl, List.forall_mem_nil _⟩
  have hapart : Classes.Apart {} ledgerEntries := by
    intro x hx y hy hne m hm
    obtain hx | hx := hused x hx
    · obtain hy | hy := hused y hy
      · exact absurd (hx.trans hy.symm) hne
      · simp [hy]
    · simp [hx] at hm
  exact ⟨hc, hes, hstored, hcquiet, hquiet, hapart,
    mergeMany_overwrites hc hes hstored hcquiet hquiet⟩

/-- Two entries with one iterator. -/
def sharedVisits : List (String × Value) :=
  [("first", visits), ("last", visits)]

/-- **Entries that share an iterator give other values in another order**: the first one stores the
number, and the other one an empty list. -/
theorem not_mergeMany_reordered :
    ¬ ∀ (Γ : Classes) (c d : Context) (es es' : List (String × Value)) (changed : Bool),
      (keys c).Nodup → (keys es).Nodup → (∀ x ∈ es, ¬ Γ.Rejects x.2) →
        (∀ x ∈ c, x.2.isSignalling = false) → (∀ x ∈ es, x.2.isSignalling = false) →
          perform (mergeMany Γ es) c = (.ok changed, d) → es'.Perm es →
            ∃ d', perform (mergeMany Γ es') c = (.ok changed, d') ∧
              ∀ key, get? d' key = get? d key := by
  intro h
  have hstored : ∀ x ∈ sharedVisits, ¬ Classes.Rejects {} x.2 := by
    simp only [sharedVisits, List.forall_mem_cons]
    exact ⟨not_rejects_visits, not_rejects_visits, List.forall_mem_nil _⟩
  have hfirst : perform (mergeMany {} sharedVisits) [] =
      (.ok true, [("first", .jsonText "[1]"), ("last", .jsonText "[]")]) := rfl
  obtain ⟨d', hlast, hvalues⟩ := h {} [] _ sharedVisits sharedVisits.reverse true (by decide)
    (by decide) hstored (List.forall_mem_nil _) (by decide) hfirst (List.reverse_perm _)
  have hother : perform (mergeMany {} sharedVisits.reverse) [] =
      (.ok true, [("last", .jsonText "[1]"), ("first", .jsonText "[]")]) := rfl
  rw [hother] at hlast
  obtain rfl := (Prod.mk.inj hlast).2
  have hkey := hvalues "first"
  simp [get?] at hkey

/-! ### One value twice -/

/-- A value that is stored as it is, is the same in storage as itself unless it is a NaN. -/
theorem sameStored_self {v : Value} (hv : v.isPrimitive = true) :
    v.sameStored v = if v.isSignalling then .error .signalling else .ok (!v.isNan) := by
  rw [Value.sameStored, if_neg (not_not.mpr rfl), Bool.or_self, Value.equals_self hv]

/-- JSON texts are the same in storage if they are the same text. -/
theorem sameStored_jsonText (t t' : String) :
    (Value.jsonText t).sameStored (.jsonText t') = .ok (t == t') := by
  rw [sameStored_eq rfl rfl, Value.equals_eq_scalarEquals rfl,
    Value.scalarEquals_of_asText? rfl rfl]
  rfl

/-- Of a value that is stored as it is, all is left. -/
theorem leftOf_of_isPrimitive {v : Value} (hv : v.isPrimitive = true) : Γ.leftOf v = v := by
  rw [Classes.leftOf, Classes.usedUp, if_pos hv, Value.drained_nil]

/-- A value is compared with the one that it replaces. -/
theorem perform_mergeOne_held {key : String} {u v w : Value} (hu : get? c key = some u)
    (hw : Γ.encode v = .ok w) :
    perform (mergeOne Γ key v) c = ((u.sameStored w).map (!·), put c key w) := by
  have hn : v ≠ .null := by
    rintro rfl
    cases hw
  rw [perform_mergeOne hn, hw, hu]

/-- If what is left of a value has another stored form, both stored forms are JSON texts. -/
theorem encode_leftOf_of_ne {v w : Value} (hw : Γ.encode v = .ok w)
    (hne : Γ.encode (Γ.leftOf v) ≠ Γ.encode v) :
    ∃ t t', w = .jsonText t ∧ Γ.encode (Γ.leftOf v) = .ok (.jsonText t') ∧ t ≠ t' := by
  have hp : v.isPrimitive = false := by
    by_contra hp
    rw [leftOf_of_isPrimitive (by simpa using hp)] at hne
    exact hne rfl
  have hp' : (Γ.leftOf v).isPrimitive = false := (v.isPrimitive_drained).trans hp
  obtain ⟨w', hw'⟩ := exists_encode_drained (Γ.usedUp v) hw
  rw [← Classes.leftOf] at hw'
  obtain ⟨-, h⟩ | ⟨t, rfl⟩ := encode_cases hw
  · simp [hp] at h
  obtain ⟨-, h⟩ | ⟨t', rfl⟩ := encode_cases hw'
  · simp [hp'] at h
  refine ⟨t, t', rfl, hw', ?_⟩
  rintro rfl
  exact hne (hw'.trans hw.symm)

/-- **A value that is merged a second time changes nothing**, and reports no change unless it is a
NaN: a signalling one refuses the comparison, and any other is not equal to itself. But if what is
left of the value has another stored form, this is stored, and a change is reported. -/
theorem mergeOne_again {key : String} {v : Value} {b : Bool}
    (h : perform (mergeOne Γ key v) c = (.ok b, d)) :
    (Γ.encode (Γ.leftOf v) = Γ.encode v → perform (mergeOne Γ key (Γ.leftOf v)) d =
      (if v.isSignalling then .error .signalling else .ok v.isNan, d)) ∧
    (Γ.encode (Γ.leftOf v) ≠ Γ.encode v → ∃ w, Γ.encode (Γ.leftOf v) = .ok w ∧
      perform (mergeOne Γ key (Γ.leftOf v)) d = (.ok true, put d key w)) := by
  by_cases hn : v = .null
  · subst hn
    exact ⟨fun _ => rfl, fun hne => absurd rfl hne⟩
  rw [perform_mergeOne hn] at h
  cases he : Γ.encode v with
  | error f =>
    rw [he] at h
    cases h
  | ok w =>
    rw [he] at h
    obtain rfl : put c key w = d := (Prod.mk.inj h).2
    have hheld : get? (put c key w) key = some w := by rw [get?_put, if_pos rfl]
    constructor
    · intro hsame
      obtain ⟨hnan, hsignalling⟩ := isNan_eq_of_encode he
      rw [perform_mergeOne_held hheld hsame, sameStored_self (isPrimitive_of_encode he),
        put_put, hnan, hsignalling]
      split_ifs <;> simp [Except.map]
    · intro hne
      obtain ⟨t, t', rfl, hleft, ht⟩ := encode_leftOf_of_ne he (he ▸ hne)
      refine ⟨_, hleft, ?_⟩
      rw [perform_mergeOne_held hheld hleft, sameStored_jsonText, beq_eq_false_iff_ne.mpr ht]
      rfl

/-- The tags of the ledger are the same as the list of them, twice. -/
theorem mergeOne_again_tags :
    perform (mergeOne {} "tags" (.row .list [.int 1])) ledger =
        (.ok false, put ledger "tags" (.jsonText "[1]")) ∧
      perform (mergeOne {} "tags" (Classes.leftOf {} (.row .list [.int 1])))
          (put ledger "tags" (.jsonText "[1]")) =
        (.ok false, put ledger "tags" (.jsonText "[1]")) := by
  have hfirst : perform (mergeOne {} "tags" (.row .list [.int 1])) ledger =
      (.ok false, put ledger "tags" (.jsonText "[1]")) := by
    have hsame : (Value.text "[1]").sameStored (.jsonText "[1]") = .ok true := by
      rw [sameStored_eq rfl rfl, Value.equals_eq_scalarEquals rfl,
        Value.scalarEquals_of_asText? rfl rfl]
      rfl
    exact congrArg (fun r => (Except.map (!·) r, put ledger "tags" (.jsonText "[1]"))) hsame
  exact ⟨hfirst, (mergeOne_again hfirst).1 rfl⟩

/-- A NaN that is merged a second time reports a change, and so does an iterator, of which nothing
is left. -/
theorem not_mergeOne_again_unchanged :
    (¬ ∀ (Γ : Classes) (key : String) (v : Value) (c d : Context) (b : Bool),
      Γ.leftOf v = v → perform (mergeOne Γ key v) c = (.ok b, d) →
        perform (mergeOne Γ key (Γ.leftOf v)) d = (.ok false, d)) ∧
    ¬ ∀ (Γ : Classes) (key : String) (v : Value) (c d : Context) (b : Bool),
      v.isNan = false → perform (mergeOne Γ key v) c = (.ok b, d) →
        perform (mergeOne Γ key (Γ.leftOf v)) d = (.ok false, d) := by
  constructor
  · intro h
    have hsecond := h {} "rate" (.float .nan) [] [("rate", .float .nan)] true rfl rfl
    have hsame : (Value.float .nan).sameStored (.float .nan) = .ok false := sameStored_self rfl
    have hchanged := congrArg Prod.fst hsecond
    change ((Value.float .nan).sameStored (.float .nan)).map (!·) = .ok false at hchanged
    rw [hsame] at hchanged
    cases hchanged
  · intro h
    have hsecond := h {} "visits" visits [] [("visits", .jsonText "[1]")] true rfl rfl
    have hcontext : (perform (mergeOne {} "visits" (Classes.leftOf {} visits))
        [("visits", .jsonText "[1]")]).2 = [("visits", .jsonText "[]")] := rfl
    rw [hsecond] at hcontext
    simp at hcontext

end Carryover
