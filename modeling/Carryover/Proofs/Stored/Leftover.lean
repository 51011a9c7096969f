import Carryover.Proofs.Stored.Privacy

/-!
# What is written of what is left

What is left of a value after iterators have been run through has a JSON if the value has one, for
an iterator with nothing left is written as the empty list. It has the same JSON if writing the
value runs through none of these iterators (`leavesJson`).
-/

namespace Carryover

open Entries

/-- Whether a step gives something if the one before gave something, and the same if `p`. -/
def Yields (p : Prop) {α : Type} (before after : Option α) : Prop :=
  (before.isSome = true → after.isSome = true) ∧ (p → after = before)

namespace Yields

variable {p : Prop} {α β γ : Type} {a b : Option α}

/-- What is there yields itself. -/
theorem refl (a : Option α) : Yields p a a :=
  ⟨id, fun _ => rfl⟩

/-- A step that is no longer the one before still gives something. -/
theorem of_some (a : Option α) (x : α) (hp : ¬ p) : Yields p a (some x) :=
  ⟨fun _ => rfl, fun h => absurd h hp⟩

/-- What is made of both yields alike. -/
theorem map (h : Yields p a b) (f : α → β) : Yields p (a.map f) (b.map f) := by
  refine ⟨fun ha => ?_, fun hp => by rw [h.2 hp]⟩
  rw [Option.isSome_map] at ha ⊢
  exact h.1 ha

/-- Two steps one after the other. -/
theorem both {c d : Option β} (h : Yields p a b) (h' : Yields p c d) (f : α → β → γ) :
    Yields p (a.bind fun x => c.bind fun y => some (f x y))
      (b.bind fun x => d.bind fun y => some (f x y)) := by
  refine ⟨fun hac => ?_, fun hp => by rw [h.2 hp, h'.2 hp]⟩
  cases a with
  | none => cases hac
  | some x =>
    cases c with
    | none => cases hac
    | some y =>
      obtain ⟨z, rfl⟩ := Option.isSome_iff_exists.mp (h.1 rfl)
      obtain ⟨w, rfl⟩ := Option.isSome_iff_exists.mp (h'.1 rfl)
      rfl

/-- Rows yield if their items do, one by one. -/
theorem mapM {f : α → Option γ} {g : β → Option γ} {xs : List α} {ys : List β}
    (h : List.Forall₂ (fun x y => Yields p (f x) (g y)) xs ys) :
    Yields p (xs.mapM f) (ys.mapM g) := by
  induction h with
  | nil => exact .refl _
  | cons hxy _ ih =>
    rw [List.mapM_cons, List.mapM_cons]
    exact hxy.both ih List.cons

/-- Rows from which items are left out yield if their items do. -/
theorem filterMapM {f : α → Option (Option γ)} {g : β → Option (Option γ)} {xs : List α}
    {ys : List β} (h : List.Forall₂ (fun x y => Yields p (f x) (g y)) xs ys) :
    Yields p (xs.filterMapM f) (ys.filterMapM g) := by
  have hcons {δ : Type} (h : δ → Option (Option γ)) (z : δ) (zs : List δ) :
      (z :: zs).filterMapM h =
        (h z).bind fun o => (zs.filterMapM h).bind fun rest => some (o.toList ++ rest) := by
    rw [List.filterMapM_cons]
    rcases h z with _ | _ | o <;> cases zs.filterMapM h <;> rfl
  induction h with
  | nil => exact .refl _
  | cons hxy _ ih =>
    rw [hcons, hcons]
    exact hxy.both ih _

end Yields

variable {Γ : Classes} {marks : List Nat} {p : Prop}

/-! ### The text of a value -/

mutual

/-- The text of a value tells nothing of what an iterator has left. -/
theorem shown_drained : ∀ v : Value, Γ.shown (v.drained marks) = Γ.shown v
  | .row form items => by
    rw [Value.drained, Classes.shown, Classes.shown, shownItems_drained items]
  | .dict entries => by
    rw [Value.drained, Classes.shown, Classes.shown, shownEntries_drained entries]
  | .object cls attrs => by
    rw [Value.drained, Classes.shown, Classes.shown, shownAttrs_drained attrs]
  | .iterator kind mark items => by rw [Value.drained, Classes.shown, Classes.shown]
  | .null | .bool _ | .int _ | .float _ | .complex .. | .decimal _ | .fraction _ | .text _
  | .jsonText _ | .octets .. | .range _ | .date _ | .datetime _ | .time _ | .duration _ | .uuid _
  | .member .. | .number .. => rfl

/-- Items are shown as before iterators were run through. -/
theorem shownItems_drained : ∀ vs : List Value,
    Γ.shownItems (Value.drainedItems marks vs) = Γ.shownItems vs
  | [] => rfl
  | v :: vs => by
    rw [Value.drainedItems, Classes.shownItems, Classes.shownItems, shown_drained v,
      shownItems_drained vs]

/-- Entries are shown as before iterators were run through. -/
theorem shownEntries_drained : ∀ es : List (Value × Value),
    Γ.shownEntries (Value.drainedEntries marks es) = Γ.shownEntries es
  | [] => rfl
  | (k, v) :: es => by
    rw [Value.drainedEntries, Classes.shownEntries, Classes.shownEntries, shown_drained v,
      shownEntries_drained es]

/-- Attributes are shown as before iterators were run through. -/
theorem shownAttrs_drained : ∀ attrs : List (String × Value),
    Γ.shownAttrs (Value.drainedAttrs marks attrs) = Γ.shownAttrs attrs
  | [] => rfl
  | (name, v) :: attrs => by
    rw [Value.drainedAttrs, Classes.shownAttrs, Classes.shownAttrs, shown_drained v,
      shownAttrs_drained attrs]

end

/-! ### One level -/

/-- Whether what is left of a value has a JSON if the value has one, and the same if `p`. -/
def LeavesJson (Γ : Classes) (marks : List Nat) (p : Prop) (v : Value) : Prop :=
  ∀ room, Yields p (Γ.toJson? true room v) (Γ.toJson? true room (v.drained marks))

/-- Items leave their JSON one by one. -/
theorem yields_items {vs : List Value} (h : ∀ v ∈ vs, LeavesJson Γ marks p v) (room : Nat) :
    Yields p (vs.mapM (Γ.toJson? true room))
      ((Value.drainedItems marks vs).mapM (Γ.toJson? true room)) := by
  rw [Value.drainedItems_eq_map]
  refine .mapM (List.forall₂_map_right_iff.mpr (List.forall₂_same.mpr fun v hv => ?_))
  exact h v hv room

/-- A row leaves its JSON if its items do. -/
theorem leavesJson_row (form : RowForm) {vs : List Value} (h : ∀ v ∈ vs, LeavesJson Γ marks p v) :
    LeavesJson Γ marks p (.row form vs) := by
  have hlist (room : Nat) : Yields p (Γ.toJson? true room (.row .list vs))
      (Γ.toJson? true room (.row .list (Value.drainedItems marks vs))) := by
    cases room with
    | zero => exact .refl _
    | succ room =>
      rw [Classes.toJson?, Classes.toJson?]
      · exact (yields_items h room).map _
      all_goals simp
  intro room
  rw [Value.drained]
  cases room with
  | zero => exact .refl _
  | succ room =>
    cases form with
    | userList =>
      cases room with
      | zero => exact .refl _
      | succ inner =>
        rw [Classes.toJson?, Classes.toJson?]
        exact (hlist inner).map _
    | _ =>
      rw [Classes.toJson?, Classes.toJson?]
      · exact (yields_items h room).map _
      all_goals simp

/-- A mapping leaves its JSON if its values do. -/
theorem leavesJson_dict {es : List (Value × Value)} (h : ∀ e ∈ es, LeavesJson Γ marks p e.2) :
    LeavesJson Γ marks p (.dict es) := by
  intro room
  rw [Value.drained]
  cases room with
  | zero => exact .refl _
  | succ room =>
    rw [toJson?_dict, toJson?_dict, Value.drainedEntries_eq_map]
    refine (Yields.mapM (List.forall₂_map_right_iff.mpr (List.forall₂_same.mpr ?_))).map _
    exact fun e he => (Yields.refl (Γ.keyText? true e.1)).both (h e he room) Prod.mk

/-- An iterator that has been run through has nothing left, and any other what is left of its
items. -/
theorem leavesJson_iterator (kind : String) {mark : Nat} {vs : List Value}
    (hmark : p → mark ∉ marks) (h : ∀ v ∈ vs, LeavesJson Γ marks p v) :
    LeavesJson Γ marks p (.iterator kind mark vs) := by
  intro room
  rw [Value.drained]
  cases room with
  | zero => exact .refl _
  | succ room =>
    rw [Classes.toJson?, Classes.toJson?]
    split_ifs with hm
    · exact .of_some _ _ fun hp => hmark hp (by simpa using hm)
    · exact (yields_items h room).map _

section Objects

variable {cls : String} {attrs : Entries String Value}

/-- What is left of attributes stands under their names. -/
theorem get?_drainedAttrs (attrs : Entries String Value) (name : String) :
    get? (Value.drainedAttrs marks attrs) name = (get? attrs name).map (Value.drained marks) := by
  rw [Value.drainedAttrs_eq_map]
  exact get?_map ..

/-- What a field shows is an attribute of the object or of its class. -/
theorem yields_fieldValue? (room : Nat) (name : String)
    (h : ∀ e ∈ attrs, Γ.isWritten cls e.1 = true → LeavesJson Γ marks p e.2)
    (hname : Γ.isWritten cls name = true) :
    Yields p ((Γ.fieldValue? (.object cls attrs) name).bind (Γ.toJson? true room))
      ((Γ.fieldValue? (.object cls (Value.drainedAttrs marks attrs)) name).bind
        (Γ.toJson? true room)) := by
  unfold Classes.fieldValue? Classes.declaredAttribute?
  dsimp only
  rw [get?_drainedAttrs]
  have hown {v : Value} (hv : get? attrs name = some v) : LeavesJson Γ marks p v :=
    h (name, v) (mem_of_get? hv) hname
  generalize get? attrs name = value at hown ⊢
  match Γ.holding? (.declared cls) name with
  | some (.property (.gives w)) => exact .refl _
  | some (.property (.raises f)) => exact .refl _
  | some .slot | none | some (.attribute w) =>
    cases value with
    | none => exact .refl _
    | some v => exact hown rfl room

/-- An object of a model has its fields written, under the names that they have in the JSON. -/
theorem leavesJson_model (hmodel : Γ.isModel (.declared cls) = true)
    (h : ∀ e ∈ attrs, Γ.isWritten cls e.1 = true → LeavesJson Γ marks p e.2) (room : Nat) :
    Yields p (Γ.toJson? true (room + 1) (.object cls attrs))
      (Γ.toJson? true (room + 1) (.object cls (Value.drainedAttrs marks attrs))) := by
  rw [toJson?_modelObject hmodel, toJson?_modelObject hmodel, Value.drainedAttrs_eq_map]
  refine (Yields.filterMapM (List.forall₂_map_right_iff.mpr (List.forall₂_same.mpr ?_))).map _
  intro e he
  unfold Classes.modelEntry?
  dsimp only
  split
  · rename_i f hf
    have hwritten : Γ.isWritten cls e.1 = true := by
      rw [Classes.isWritten, hmodel]
      exact List.any_eq_true.mpr
        ⟨f, List.mem_of_find?_eq_some hf, by simpa using List.find?_some hf⟩
    exact (Yields.refl (some f.shownName)).both (h e he hwritten room) fun n j => some (n, j)
  · exact .refl _

/-- An object of a record has its fields written. -/
theorem leavesJson_record (hmodel : Γ.isModel (.declared cls) = false)
    (hrecord : Γ.isRecord (.declared cls) = true)
    (h : ∀ e ∈ attrs, Γ.isWritten cls e.1 = true → LeavesJson Γ marks p e.2) (room : Nat) :
    Yields p (Γ.toJson? true (room + 1) (.object cls attrs))
      (Γ.toJson? true (room + 1) (.object cls (Value.drainedAttrs marks attrs))) := by
  rw [toJson?_recordObject hmodel hrecord, toJson?_recordObject hmodel hrecord]
  refine (Yields.mapM (List.forall₂_same.mpr fun f hf => ?_)).map _
  have hwritten : Γ.isWritten cls f.name = true := by
    rw [Classes.isWritten, hmodel, hrecord]
    exact List.any_eq_true.mpr ⟨f, hf, beq_self_eq_true _⟩
  exact (yields_fieldValue? room f.name h hwritten).map _

/-- A plain object has its attributes without a leading underscore written. -/
theorem leavesJson_plain (hplain : Γ.IsPlain cls)
    (h : ∀ e ∈ attrs, Γ.isWritten cls e.1 = true → LeavesJson Γ marks p e.2) (room : Nat) :
    Yields p (Γ.toJson? true (room + 2) (.object cls attrs))
      (Γ.toJson? true (room + 2) (.object cls (Value.drainedAttrs marks attrs))) := by
  have hshown : publicAttrs (Γ.openAttrs cls (Value.drainedAttrs marks attrs)) =
      (publicAttrs (Γ.openAttrs cls attrs)).map fun e => (e.1, e.2.drained marks) := by
    rw [Value.drainedAttrs_eq_map, publicAttrs, publicAttrs, Classes.openAttrs, Classes.openAttrs,
      List.filter_map, List.filter_map]
    rfl
  rw [toJson?_plainObject hplain, toJson?_plainObject hplain, hshown]
  refine (Yields.mapM (List.forall₂_map_right_iff.mpr (List.forall₂_same.mpr fun e he => ?_))).map _
  obtain ⟨he, hpublic⟩ := List.mem_filter.mp he
  obtain ⟨he, hopen⟩ := List.mem_filter.mp he
  have hwritten : Γ.isWritten cls e.1 = true := by
    rw [Classes.isWritten, hplain.1, hplain.2.1, hplain.2.2]
    simpa using ⟨by simpa using hopen, by simpa using hpublic⟩
  exact (h e he hwritten room).map _

/-- An object leaves its JSON if its attributes that are written do. -/
theorem leavesJson_object
    (h : ∀ e ∈ attrs, Γ.isWritten cls e.1 = true → LeavesJson Γ marks p e.2) :
    LeavesJson Γ marks p (.object cls attrs) := by
  intro room
  rw [Value.drained]
  cases room with
  | zero => exact .refl _
  | succ room =>
    cases hmodel : Γ.isModel (.declared cls) with
    | true => exact leavesJson_model hmodel h room
    | false =>
      cases hrecord : Γ.isRecord (.declared cls) with
      | true => exact leavesJson_record hmodel hrecord h room
      | false =>
        cases room with
        | zero =>
          rw [toJson?_one_of_not_known hmodel hrecord, toJson?_one_of_not_known hmodel hrecord]
          exact .refl _
        | succ room =>
          cases hopen : Γ.hasOpenAttrs (.declared cls) with
          | true => exact leavesJson_plain ⟨hmodel, hrecord, hopen⟩ h room
          | false =>
            rw [toJson?_slotObject hmodel hrecord hopen, toJson?_slotObject hmodel hrecord hopen,
              opaqueText_object_congr (shownAttrs_drained attrs)]
            exact .refl _

end Objects

/-! ### All levels -/

mutual

/-- **What is left of a value has a JSON if the value has one, and the same if writing the value
runs through none of the iterators.** -/
theorem leavesJson : ∀ v : Value, (p → ∀ m ∈ Γ.runThrough v, m ∉ marks) → LeavesJson Γ marks p v
  | .row form items, h => leavesJson_row form (leavesJson_items items h)
  | .dict entries, h => leavesJson_dict (leavesJson_entries entries h)
  | .object _ attrs, h => leavesJson_object (leavesJson_attrs attrs h)
  | .iterator kind mark items, h =>
    leavesJson_iterator kind (fun hp => h hp mark List.mem_cons_self)
      (leavesJson_items items fun hp m hm => h hp m (List.mem_cons_of_mem _ hm))
  | .null, _ | .bool _, _ | .int _, _ | .float _, _ | .complex .., _ | .decimal _, _
  | .fraction _, _ | .text _, _ | .jsonText _, _ | .octets .., _ | .range _, _ | .date _, _
  | .datetime _, _ | .time _, _ | .duration _, _ | .uuid _, _ | .member .., _ | .number .., _ =>
    fun _ => .refl _

/-- Items leave their JSON. -/
theorem leavesJson_items : ∀ vs : List Value, (p → ∀ m ∈ Γ.runThroughItems vs, m ∉ marks) →
    ∀ v ∈ vs, LeavesJson Γ marks p v
  | [], _ => List.forall_mem_nil _
  | v :: vs, h => List.forall_mem_cons.mpr
    ⟨leavesJson v fun hp m hm => h hp m (List.mem_append_left _ hm),
      leavesJson_items vs fun hp m hm => h hp m (List.mem_append_right _ hm)⟩

/-- The values of entries leave their JSON. -/
theorem leavesJson_entries : ∀ es : List (Value × Value),
    (p → ∀ m ∈ Γ.runThroughEntries es, m ∉ marks) → ∀ e ∈ es, LeavesJson Γ marks p e.2
  | [], _ => List.forall_mem_nil _
  | (_, v) :: es, h => List.forall_mem_cons.mpr
    ⟨leavesJson v fun hp m hm => h hp m (List.mem_append_left _ hm),
      leavesJson_entries es fun hp m hm => h hp m (List.mem_append_right _ hm)⟩

/-- The attributes that are written leave their JSON. -/
theorem leavesJson_attrs {cls : String} : ∀ attrs : List (String × Value),
    (p → ∀ m ∈ Γ.runThroughAttrs cls attrs, m ∉ marks) →
      ∀ e ∈ attrs, Γ.isWritten cls e.1 = true → LeavesJson Γ marks p e.2
  | [], _ => List.forall_mem_nil _
  | (name, v) :: attrs, h => List.forall_mem_cons.mpr
    ⟨fun hname => leavesJson v fun hp m hm => h hp m
        (List.mem_append_left _ (by rwa [if_pos hname])),
      leavesJson_attrs attrs fun hp m hm => h hp m (List.mem_append_right _ hm)⟩

end

/-! ### Stored forms -/

variable {v w : Value}

/-- What is left of a value that has a stored form has one. -/
theorem exists_encode_drained (marks : List Nat) (h : Γ.encode v = .ok w) :
    ∃ w', Γ.encode (v.drained marks) = .ok w' := by
  have hn : v.drained marks ≠ .null := by
    rw [Ne, Value.drained_eq_null_iff]
    rintro rfl
    cases h
  cases hp : v.isPrimitive with
  | true => exact ⟨_, encode_of_isPrimitive ((v.isPrimitive_drained).trans hp)⟩
  | false =>
    obtain ⟨-, hp'⟩ | ⟨t, rfl⟩ := encode_cases h
    · simp [hp] at hp'
    rw [encode_of_not_isPrimitive (by rintro rfl; cases h) hp] at h
    rw [encode_of_not_isPrimitive hn ((v.isPrimitive_drained).trans hp)]
    have hleaves : LeavesJson Γ marks False v := leavesJson v nofun
    have hjson := (hleaves Classes.writingRoom).1
    unfold Classes.jsonTextOf Classes.json? at h ⊢
    cases hv : Γ.toJson? true Classes.writingRoom v with
    | none => simp [hv, Except.map] at h
    | some j =>
      obtain ⟨j', hj'⟩ := Option.isSome_iff_exists.mp (hjson (by rw [hv]; rfl))
      rw [hj']
      exact ⟨_, rfl⟩

/-- What is left of a value has the same stored form if storing the value runs through none of the
iterators. -/
theorem encode_drained (h : ∀ m ∈ Γ.usedUp v, m ∉ marks) :
    Γ.encode (v.drained marks) = Γ.encode v := by
  cases hp : v.isPrimitive with
  | true =>
    have hself : v.drained marks = v := by
      cases v <;> first | rfl | cases hp
    rw [hself]
  | false =>
    by_cases hn : v = .null
    · subst hn
      rfl
    rw [Classes.usedUp, hp] at h
    have hjson := (leavesJson (p := True) v (fun _ => h) Classes.writingRoom).2 trivial
    rw [encode_of_not_isPrimitive hn hp, encode_of_not_isPrimitive
      (mt Value.drained_eq_null_iff.mp hn) ((v.isPrimitive_drained).trans hp)]
    unfold Classes.jsonTextOf Classes.json?
    rw [hjson]

end Carryover
