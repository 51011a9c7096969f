import Carryover.Proofs.Extract.Parts
import Carryover.Proofs.Extract.Writes
import Mathlib.Data.List.Count
import Mathlib.Order.Monotone.Basic

/-!
# How deep flattening goes

An object flattens within a number of levels if its fields can be read and the values that are
flattened do so within one level less (`Flattens`). An object has a list of writes exactly if it
flattens within some number of levels.

An extraction reaches a value to flatten once the fields before the one that holds it have been
written (`Reaches`); how many levels it goes down (`EndsWithin`) says nothing about whether its
reads succeed. If they do, that many levels are enough (`Flattens.of_endsWithin`).

The values that can be flattened are the parts of the object and of the classes. With each level
more parts end, until no new ones do, and from then on none: an extraction that goes down a
bounded number of levels goes no deeper than there are parts, and one more
(`EndsWithin.within_weight`).
-/

namespace Carryover

open Entries

/-- Whether a field can be read, its element included, and what it flattens goes on as far as it
has to. -/
def FieldFlattens (s : Session) (deeper : Value → Prop) (target : Value) (f : Field) : Prop :=
  ∃ o, s.classes.attribute? target f.attr = .ok o ∧ ∀ v, o = some v →
    ∃ taken, f.directive.take? v = .ok taken ∧
      ∀ w, taken = some w → f.directive.flatten = true → deeper w

/-- Whether the reads of an object and of all that it flattens succeed, within a number of
levels. -/
def Flattens (s : Session) : Nat → Value → Prop
  | 0, _ => False
  | n + 1, target => target ≠ .null ∧ ∃ fields, s.fieldsOf? target.classOf = .ok fields ∧
      ∀ f ∈ fields, FieldFlattens s (Flattens s n) target f

/-- Whether the extraction of an object comes to flatten a value: the fields before the one that
holds it make writes, and that field can be read. -/
def Reaches (s : Session) (target w : Value) : Prop :=
  ∃ before f after ws v, s.fieldsOf? target.classOf = .ok (before ++ f :: after) ∧
    FieldWrites s target before ws ∧ s.classes.attribute? target f.attr = .ok (some v) ∧
    f.directive.take? v = .ok (some w) ∧ f.directive.flatten = true

/-- Whether the extraction of an object goes down less than a number of levels. -/
def EndsWithin (s : Session) : Nat → Value → Prop
  | 0, _ => False
  | n + 1, target => ∀ w, Reaches s target w → EndsWithin s n w

variable {s t : Session} {target w : Value} {f : Field} {fields before after : List Field}
  {ws : List (String × Value)} {m n : Nat}

/-- A field flattens also if more values may be flattened. -/
theorem FieldFlattens.mono {deeper deeper' : Value → Prop} (h : FieldFlattens s deeper target f)
    (hd : ∀ w, deeper w → deeper' w) : FieldFlattens s deeper' target f := by
  obtain ⟨o, ho, hv⟩ := h
  refine ⟨o, ho, fun v hov => ?_⟩
  obtain ⟨taken, htaken, hw⟩ := hv v hov
  exact ⟨taken, htaken, fun w hsel hflat => hd w (hw w hsel hflat)⟩

/-- A field flattens if what it takes does. -/
theorem FieldFlattens.of_read {deeper : Value → Prop} {v : Value} {taken : Option Value}
    (hread : s.classes.attribute? target f.attr = .ok (some v))
    (htake : f.directive.take? v = .ok taken)
    (h : ∀ w, taken = some w → f.directive.flatten = true → deeper w) :
    FieldFlattens s deeper target f := by
  refine ⟨some v, hread, ?_⟩
  rintro _ ⟨⟩
  exact ⟨taken, htake, h⟩

/-- What flattens within some levels does so within one more. -/
theorem Flattens.succ (h : Flattens s n target) : Flattens s (n + 1) target := by
  induction n generalizing target with
  | zero => cases h
  | succ n ih =>
    obtain ⟨hn, fields, hfields, hall⟩ := h
    exact ⟨hn, fields, hfields, fun f hf => (hall f hf).mono fun _ => ih⟩

/-- What flattens within some levels does so within more. -/
theorem Flattens.mono (hnm : n ≤ m) (h : Flattens s n target) :
    Flattens s m target := by
  induction hnm with
  | refl => exact h
  | step _ ih => exact ih.succ

/-! ### Objects that have a list of writes -/

/-- Fields that flatten have writes, if all that they flatten has. -/
theorem exists_fieldWrites {deeper : Value → Prop} (hd : ∀ w, deeper w → ∃ ws, Writes s w ws)
    (h : ∀ f ∈ fields, FieldFlattens s deeper target f) :
    ∃ ws, FieldWrites s target fields ws := by
  induction fields with
  | nil => exact ⟨[], .nil⟩
  | cons f fields ih =>
    obtain ⟨ws, hws⟩ := ih fun g hg => h g (List.mem_cons_of_mem _ hg)
    obtain ⟨o, hread, hflat⟩ := h f List.mem_cons_self
    cases o with
    | none => exact ⟨ws, .unset hread hws⟩
    | some v =>
      obtain ⟨taken, hv, hdeep⟩ := hflat v rfl
      cases taken with
      | none => exact ⟨ws, .skipped hread hv hws⟩
      | some w =>
        cases hf : f.directive.flatten with
        | false => exact ⟨_, .stored hread hv hf hws⟩
        | true =>
          obtain ⟨ws', -, inner, hinner, hws'⟩ := hd w (hdeep w rfl hf)
          exact ⟨ws' ++ ws, .flattened hread hv hf hinner hws' hws⟩

/-- What flattens has writes. -/
theorem Flattens.exists_writes (h : Flattens s n target) : ∃ ws, Writes s target ws := by
  induction n generalizing target with
  | zero => cases h
  | succ n ih =>
    obtain ⟨hn, fields, hfields, hall⟩ := h
    obtain ⟨ws, hws⟩ := exists_fieldWrites (fun w hw => ih hw) hall
    exact ⟨ws, hn, fields, hfields, hws⟩

/-- Fields with writes flatten within some levels. -/
theorem FieldWrites.exists_flattens (h : FieldWrites s target fields ws) :
    ∃ n, ∀ f ∈ fields, FieldFlattens s (Flattens s n) target f := by
  induction h with
  | nil => exact ⟨0, fun f hf => by cases hf⟩
  | unset hread _ ih =>
    obtain ⟨n, hn⟩ := ih
    refine ⟨n, List.forall_mem_cons.mpr ⟨⟨none, hread, fun v hv => by cases hv⟩, hn⟩⟩
  | @skipped target v f fields ws hread hv _ ih =>
    obtain ⟨n, hn⟩ := ih
    exact ⟨n, List.forall_mem_cons.mpr ⟨.of_read hread hv fun _ hw => (nomatch hw), hn⟩⟩
  | @stored target v w f fields ws hread hv hflat _ ih =>
    obtain ⟨n, hn⟩ := ih
    refine ⟨n, List.forall_mem_cons.mpr ⟨.of_read hread hv fun _ _ hf => ?_, hn⟩⟩
    rw [hflat] at hf
    cases hf
  | @flattened target v w f fields inner ws ws' hread hv hflat hfields _ _ ihinner ih =>
    obtain ⟨n, hn⟩ := ih
    obtain ⟨m, hm⟩ := ihinner
    refine ⟨max n (m + 1), List.forall_mem_cons.mpr ⟨.of_read hread hv ?_, fun g hg =>
      (hn g hg).mono fun _ => Flattens.mono (le_max_left _ _)⟩⟩
    rintro _ ⟨⟩ -
    exact Flattens.mono (le_max_right _ _) ⟨take?_ne_null hv, inner, hfields, hm⟩

/-- An object has a list of writes exactly if it flattens within some number of levels. -/
theorem exists_writes_iff : (∃ ws, Writes s target ws) ↔ ∃ n, Flattens s n target := by
  constructor
  · rintro ⟨ws, hn, fields, hfields, hws⟩
    obtain ⟨n, hall⟩ := hws.exists_flattens
    exact ⟨n + 1, hn, fields, hfields, hall⟩
  · rintro ⟨n, h⟩
    exact h.exists_writes

/-! ### Extractions that end -/

/-- What ends within some levels does so within one more. -/
theorem EndsWithin.succ (h : EndsWithin s n target) : EndsWithin s (n + 1) target := by
  induction n generalizing target with
  | zero => cases h
  | succ n ih => exact fun w hw => ih (h w hw)

/-- An object that flattens does not go down further than it flattens. -/
theorem Flattens.endsWithin (h : Flattens s n target) : EndsWithin s n target := by
  induction n generalizing target with
  | zero => cases h
  | succ n ih =>
    obtain ⟨-, fields, hfields, hall⟩ := h
    rintro w ⟨before, f, after, ws, v, hfields', -, hread, hw, hflat⟩
    obtain rfl := Except.ok.inj (hfields.symm.trans hfields')
    obtain ⟨o, ho, htaken⟩ := hall f (by simp)
    obtain ⟨taken, htake, hdeep⟩ := htaken v (Except.ok.inj (ho.symm.trans hread))
    exact ih (hdeep w (Except.ok.inj (htake.symm.trans hw)) hflat)

/-- What the first fields of an object flatten is reached, so it needs no more levels than the
extraction goes down. -/
theorem FieldFlattens.of_endsWithin
    (hlevels : ∀ w, Flattens s m w → EndsWithin s n w → Flattens s n w)
    (hends : EndsWithin s (n + 1) target)
    (hfields : s.fieldsOf? target.classOf = .ok (before ++ after))
    (hall : ∀ f ∈ before, FieldFlattens s (Flattens s m) target f) :
    ∀ f ∈ before, FieldFlattens s (Flattens s n) target f := by
  intro f hf
  obtain ⟨o, hread, htaken⟩ := hall f hf
  refine ⟨o, hread, ?_⟩
  rintro v rfl
  obtain ⟨taken, hw, hdeep⟩ := htaken v rfl
  refine ⟨taken, hw, ?_⟩
  rintro w rfl hflat
  obtain ⟨first, rest, rfl⟩ := List.append_of_mem hf
  obtain ⟨ws, hws⟩ := exists_fieldWrites (fun _ => Flattens.exists_writes)
    fun g hg => hall g (List.mem_append_left _ hg)
  refine hlevels w (hdeep w rfl hflat) (hends w ⟨first, f, rest ++ after, ws, v, ?_, hws,
    hread, hw, hflat⟩)
  rw [hfields, List.append_assoc, List.cons_append]

/-- An object that flattens at all does so within the levels that its extraction goes down. -/
theorem Flattens.of_endsWithin (h : Flattens s m target) (hends : EndsWithin s n target) :
    Flattens s n target := by
  induction m generalizing n target with
  | zero => cases h
  | succ m ih =>
    cases n with
    | zero => cases hends
    | succ n =>
      obtain ⟨hn, fields, hfields, hall⟩ := h
      have hsplit : s.fieldsOf? target.classOf = .ok (fields ++ []) := by
        rw [hfields, List.append_nil]
      exact ⟨hn, fields, hfields, FieldFlattens.of_endsWithin (fun _ => ih) hends hsplit hall⟩

/-! ### As many levels as there are parts -/

/-- Growing properties of the members of a list that stop growing once they do not grow stop
after as many steps as the list is long. -/
theorem of_stabilises {α : Type} {P : Nat → α → Prop} {xs : List α}
    (hmono : ∀ n x, P n x → P (n + 1) x)
    (hstable : ∀ n, (∀ x ∈ xs, P (n + 1) x → P n x) → ∀ x ∈ xs, P (n + 2) x → P (n + 1) x)
    {n : Nat} {x : α} (hx : x ∈ xs) (h : P n x) : P xs.length x := by
  classical
  have hP {m k : Nat} (hmk : m ≤ k) (x : α) (hx : P m x) : P k x := by
    induction hmk with
    | refl => exact hx
    | step _ ih => exact hmono _ x ih
  let count (m : Nat) : Nat := xs.countP fun x => decide (P m x)
  have hcount : Monotone count := fun m k hmk =>
    List.countP_mono_left fun x _ hx => by simpa using hP hmk x (by simpa using hx)
  have heq {m k : Nat} (hmk : m ≤ k) (h : count m = count k) : ∀ x ∈ xs, P k x → P m x := by
    have hfilter : (xs.filter fun x => decide (P m x)) = xs.filter fun x => decide (P k x) := by
      refine (xs.monotone_filter_right fun x hx => ?_).eq_of_length ?_
      · simpa using hP hmk x (by simpa using hx)
      · rw [← List.countP_eq_length_filter, ← List.countP_eq_length_filter]
        exact h
    intro x hx hk
    have hmem : x ∈ xs.filter fun x => decide (P k x) := by simp [hx, hk]
    rw [← hfilter] at hmem
    simpa [hx] using hmem
  have hstep (m : Nat) (h : count m = count (m + 1)) : count (m + 1) = count (m + 2) := by
    refine le_antisymm (hcount (Nat.le_succ _)) (List.countP_mono_left fun x hx hk => ?_)
    simpa using hstable m (heq (Nat.le_succ m) h) x hx (by simpa using hk)
  obtain hn | hn := le_total n xs.length
  · exact hP hn x h
  · have hlen := Nat.stabilises_of_monotone hcount (fun m => List.countP_le_length) hstep hn
    exact heq hn hlen.symm x hx h

/-- What a directive takes of a value is a part of it. -/
theorem mem_parts_of_take? {d : Directive} {v w : Value} (h : d.take? v = .ok (some w)) :
    w ∈ v.parts := by
  obtain ⟨x, hx, hw⟩ := Option.bind_eq_some_iff.mp (selected?_of_take? h)
  obtain ⟨rfl, -⟩ := present?_eq_some_iff.mp hw
  split_ifs at hx
  · split at hx
    · rename_i items hitems
      exact Value.mem_parts_of_elements? hitems (List.mem_of_getElem? hx)
    · exact Option.some.inj hx ▸ v.mem_parts_self
  · exact Option.some.inj hx ▸ v.mem_parts_self

/-- What an object flattens is a part of it or of the classes. -/
theorem mem_parts_of_flattened {Γ : Classes} {d : Directive} {name : String} {v w : Value}
    (hread : Γ.attribute? target name = .ok (some v)) (hw : d.take? v = .ok (some w)) :
    w ∈ target.parts ∨ w ∈ Γ.parts := by
  have hw := mem_parts_of_take? hw
  obtain hv | hv := Classes.mem_parts_of_attribute? hread
  · exact .inl (Value.parts_subset hv hw)
  · exact .inr (Classes.parts_subset hv hw)

/-- **An extraction goes down no further than the object and the classes weigh**, if it ends. -/
theorem EndsWithin.within_weight (h : EndsWithin s n target) :
    EndsWithin s (target.weight + s.classes.weight + 1) target := by
  let all := target.parts ++ s.classes.parts
  have hlen : all.length = target.weight + s.classes.weight := by
    rw [List.length_append, Value.length_parts, Classes.length_parts]
  have hsub {x : Value} (hx : x ∈ all) : x.parts ⊆ all := by
    obtain hx | hx := List.mem_append.mp hx
    · exact List.subset_append_of_subset_left _ (Value.parts_subset hx)
    · exact List.subset_append_of_subset_right _ (Classes.parts_subset hx)
  rw [← hlen]
  refine of_stabilises (P := fun m x => EndsWithin s (m + 1) x) (fun _ _ => EndsWithin.succ) ?_
    (List.mem_append_left _ target.mem_parts_self) (n := n) h.succ
  -- a part that needs one level more than another reaches a part that needed one level more
  intro m hm x hx hdeep w hw
  have hdw := hdeep w hw
  obtain ⟨-, f, -, -, v, -, -, hread, hsel, -⟩ := hw
  obtain hw | hw := mem_parts_of_flattened hread hsel
  · exact hm w (hsub hx hw) hdw
  · exact hm w (List.mem_append_right _ hw) hdw

/-- **An object that flattens does so within as many levels as it and the classes weigh, and one
more.** -/
theorem Flattens.within_weight (h : Flattens s n target) :
    Flattens s (target.weight + s.classes.weight + 1) target :=
  h.of_endsWithin h.endsWithin.within_weight

/-! ### Extractions that succeed -/

variable {extract : Value → Run Context} {deeper : Value → Prop}

/-- Whether an operation extracts from some values what their writes make. -/
def Succeeds (s : Session) (extract : Value → Run Context) (deeper : Value → Prop) : Prop :=
  ∀ w ws t, deeper w → Writes s w ws → s.Agrees t →
    ∃ u, s.Agrees u ∧ perform (extract w) t = (.ok (putAll [] ws), u)

/-- Fields that flatten are placed by their writes. -/
theorem FieldWrites.placeFields (h : FieldWrites s target fields ws)
    (he : Succeeds s extract deeper) (hall : ∀ f ∈ fields, FieldFlattens s deeper target f)
    (ht : s.Agrees t) (c : Context) :
    ∃ u, s.Agrees u ∧
      perform (placeFields extract target fields c) t = (.ok (putAll c ws), u) := by
  induction fields generalizing ws c t with
  | nil =>
    cases h
    exact ⟨t, ht, rfl⟩
  | cons f fields ih =>
    have hrest : ∀ g ∈ fields, FieldFlattens s deeper target g :=
      fun g hg => hall g (List.mem_cons_of_mem _ hg)
    obtain ⟨log, hcons⟩ := perform_placeFields_cons extract target f fields c t
    have hlog : s.Agrees { t with log := log } := ht.trans (t.agrees_log log)
    generalize { t with log := log } = t' at hcons hlog
    rw [hcons, ht.classes]
    cases h with
    | unset hread hws =>
      rw [hread]
      exact ih hws hrest hlog c
    | skipped hread hv hws =>
      simp only [hread, hv]
      exact ih hws hrest hlog c
    | stored hread hv hflat hws =>
      simp only [hread, hv, hflat]
      exact ih hws hrest hlog _
    | @flattened _ v w _ _ inner ws ws' hread hv hflat hfields hinner hws =>
      obtain ⟨o, ho, htaken⟩ := hall f List.mem_cons_self
      obtain ⟨taken, htake, hdeep⟩ := htaken v (Except.ok.inj (ho.symm.trans hread))
      have hw := hdeep w (Except.ok.inj (htake.symm.trans hv)) hflat
      obtain ⟨t'', ht'', hextract⟩ :=
        he w ws' t' hw ⟨take?_ne_null hv, inner, hfields, hinner⟩ hlog
      simp only [hread, hv, hflat, if_true, hextract]
      rw [putAll_append, putAll_putAll (by simp), putAll_nil]
      exact ih hws hrest ht'' _

/-- Within enough levels, what flattens is extracted. -/
theorem succeeds_extractWithin (s : Session) (n : Nat) :
    Succeeds s (extractWithin n) (Flattens s n) := by
  induction n with
  | zero =>
    intro w ws t h
    cases h
  | succ n ih =>
    rintro w ws t ⟨-, fields, hfields, hall⟩ ⟨hn, fields', hfields', hws⟩ ht
    obtain rfl := Except.ok.inj (hfields.symm.trans hfields')
    obtain ⟨t', hlookup, hagrees⟩ := perform_contextFields w.classOf t
    rw [ht.fields, hfields] at hlookup
    have ht' := ht.trans hagrees
    change ∃ u, s.Agrees u ∧ perform (extractStep (extractWithin n) w) t = _
    by_cases hnil : fields = []
    · subst hnil
      cases hws
      refine ⟨{ t' with log := t'.log ++ [.noFields w.classOf] }, ht'.trans (t'.agrees_log _), ?_⟩
      refine perform_extractStep_eq_ok.mpr ⟨hn, [], t', hlookup, ?_⟩
      rw [if_pos rfl]
      exact ⟨rfl, rfl⟩
    · obtain ⟨u, hu, hplace⟩ := hws.placeFields ih hall ht' []
      refine ⟨u, hu, perform_extractStep_eq_ok.mpr ⟨hn, fields, t', hlookup, ?_⟩⟩
      rw [if_neg hnil]
      exact hplace

/-- **An extraction performs one list of writes.** The list exists, and is the only one, exactly
if the flattening is finite and all its reads succeed; the context that is extracted is then what
the writes make of an empty one, in order. -/
theorem extractContext_eq_putAll (s : Session) (target : Value) :
    ((∃ n, Flattens s n target) ↔ ∃! ws, Writes s target ws) ∧
      ∀ c, (∃ t, perform (extractContext target) s = (.ok c, t)) ↔
        ∃ ws, Writes s target ws ∧ c = putAll [] ws := by
  refine ⟨⟨fun h => ?_, fun h => exists_writes_iff.mp h.exists⟩, fun c => ?_⟩
  · obtain ⟨ws, hws⟩ := exists_writes_iff.mpr h
    exact ⟨ws, hws, fun _ h' => h'.unique hws⟩
  rw [perform_extractContext]
  constructor
  · rintro ⟨t, ht⟩
    exact (extracts_extractWithin s _ target c s t (.refl s) ht).2
  · rintro ⟨ws, hws, rfl⟩
    obtain ⟨n, hn⟩ := exists_writes_iff.mp ⟨ws, hws⟩
    obtain ⟨t, -, ht⟩ := succeeds_extractWithin s _ target ws s hn.within_weight hws (.refl s)
    exact ⟨t, ht⟩

end Carryover
