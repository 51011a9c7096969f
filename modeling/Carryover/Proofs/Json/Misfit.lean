import Carryover.Json.Fit

/-!
# How trees fail to fit

A tree that does not fit a type is unfit, or the type is one that nothing can be read into. There
are no other failures (`misfits_fit`).
-/

namespace Carryover

/-- Whether a failure is one of fitting a tree to a type. -/
def Failure.isMisfit : Failure → Bool
  | .unfit | .noSchema => true
  | _ => false

/-- Whether a result is a misfit if it is a failure. -/
def Misfits {α : Type} (x : Except Failure α) : Prop :=
  ∀ e, x = .error e → e.isMisfit = true

variable {α β γ : Type} {Γ : Classes}

/-- What fits does not fail. -/
theorem misfits_ok (a : α) : Misfits (.ok a) :=
  fun _ h => nomatch h

/-- A misfit is what fitting may fail with. -/
theorem misfits_error {e : Failure} (h : e.isMisfit = true) : Misfits (.error e : Except _ α) := by
  rintro _ ⟨⟩
  exact h

/-- Two parts fail together as they fail alone. -/
theorem Misfits.both {combine : α → β → γ} {x : Except Failure α} {y : Except Failure β}
    (hx : Misfits x) (hy : Misfits y) : Misfits (Fit.both combine x y) := by
  unfold Fit.both
  split
  · exact misfits_ok _
  · exact misfits_error (hy _ rfl)
  · exact misfits_error rfl
  · exact misfits_error (hy _ rfl)
  · exact misfits_error (hx _ rfl)

/-! ### Scalars -/

/-- What is not there does not fit. -/
theorem misfits_unfitOr (o : Option α) (g : α → Fit) : Misfits (Json.unfitOr o g) := by
  cases o with
  | none => exact misfits_error rfl
  | some a => exact misfits_ok _

/-- Items that make no set do not fit. -/
theorem misfits_setOf? (form : RowForm) (items : List Value) :
    Misfits (Value.setOf? Γ form items) := by
  unfold Value.setOf?
  split
  · exact misfits_ok _
  · exact misfits_error rfl

/-- A set of fitted values. -/
theorem misfits_setFit (form : RowForm) (items : List Value) (g : Value → Fit) :
    Misfits (match Value.setOf? Γ form items with
      | .ok v => .ok (g v)
      | .error e => .error e) := by
  split
  · exact misfits_ok _
  · rename_i e he
    exact misfits_error (misfits_setOf? _ _ e he)

/-- A JSON that is no value of a built-in class does not fit. -/
theorem misfits_fitBuiltin (b : Builtin) (j : Json) : Misfits (Json.fitBuiltin Γ b j) := by
  unfold Json.fitBuiltin
  split
  case h_4 | h_6 | h_9 | h_10 | h_21 | h_22 | h_23 | h_24 | h_25 | h_26 | h_27 =>
    exact misfits_unfitOr _ _
  case h_17 | h_18 => exact misfits_setFit _ _ _
  case h_28 => exact misfits_error rfl
  all_goals exact misfits_ok _

/-- A JSON that is no member of an enumeration does not fit. -/
theorem misfits_fitMember (d : ClassDecl) (mixin : Mixin) (j : Json) :
    Misfits (Json.fitMember d mixin j) := by
  unfold Json.fitMember
  dsimp only
  split
  · split
    · exact misfits_ok _
    · exact misfits_error rfl
  · exact misfits_error rfl

/-! ### Types -/

mutual

/-- **A tree that fails to fit a type is a misfit.** -/
theorem misfits_fit (h : Hint) (j : Json) : Misfits (Json.fit Γ h j) := by
  rw [Json.fit.eq_def]
  split
  · exact misfits_fitBuiltin _ _
  · split
    · exact misfits_error rfl
    · split
      · exact misfits_fitMember _ _ _
      · split
        · rename_i entries
          split
          · exact misfits_ok _
          · rename_i e he
            exact misfits_error (misfits_fitFields _ entries e he)
        · exact misfits_error rfl
  · exact misfits_ok _
  · exact misfits_fitBuiltin _ _
  -- rows and mappings
  · split
    · rename_i items
      split
      · split
        · exact misfits_ok _
        · exact misfits_setFit _ _ _
        · exact misfits_setFit _ _ _
        · exact misfits_ok _
      · rename_i e he
        exact misfits_error (misfits_fitItems _ items e he)
    · exact misfits_error rfl
  · split
    · rename_i entries
      split
      · exact misfits_ok _
      · rename_i e he
        exact misfits_error (misfits_fitEntries _ _ entries e he)
    · exact misfits_error rfl
  -- tuples and unions
  · split
    · rename_i items
      split
      · exact misfits_ok _
      · rename_i e he
        exact misfits_error (misfits_fitEach _ items e he)
    · exact misfits_error rfl
  · rename_i hs
    have hunion (j' : Json) (hj : j' = j) : Misfits (Json.fitUnion Γ hs j' none) :=
      hj ▸ misfits_fitUnion hs j none
    split
    · split
      · exact misfits_ok _
      · exact hunion _ rfl
    · exact hunion _ rfl
  · split
    · exact misfits_ok _
    · exact misfits_error rfl
  · exact misfits_fit _ _
  · exact misfits_fit _ _
  · exact misfits_ok _
  · exact misfits_error rfl
termination_by (sizeOf j, sizeOf h)

/-- Items fail to fit a type by misfits alone. -/
theorem misfits_fitItems (h : Hint) (js : List Json) : Misfits (Json.fitItems Γ h js) := by
  cases js with
  | nil =>
    rw [Json.fitItems]
    exact misfits_ok _
  | cons j js =>
    rw [Json.fitItems]
    exact (misfits_fit h j).both (misfits_fitItems h js)
termination_by (sizeOf js, sizeOf h)

/-- Entries fail to fit their types by misfits alone. -/
theorem misfits_fitEntries (key value : Hint) (es : List (String × Json)) :
    Misfits (Json.fitEntries Γ key value es) := by
  match es with
  | [] =>
    rw [Json.fitEntries]
    exact misfits_ok _
  | (k, j) :: es =>
    rw [Json.fitEntries]
    exact ((misfits_fit key (.text k)).both (misfits_fit value j)).both
      (misfits_fitEntries key value es)
termination_by (sizeOf es, 0)

/-- Items fail to fit the types of a tuple by misfits alone. -/
theorem misfits_fitEach (hs : List Hint) (js : List Json) : Misfits (Json.fitEach Γ hs js) := by
  match hs, js with
  | [], [] =>
    rw [Json.fitEach]
    exact misfits_ok _
  | h :: hs, j :: js =>
    rw [Json.fitEach]
    exact (misfits_fit h j).both (misfits_fitEach hs js)
  | [], _ :: _ | _ :: _, [] =>
    rw [Json.fitEach]
    · exact misfits_error rfl
    all_goals simp
termination_by (sizeOf js, sizeOf hs)

/-- Entries fail to fit fields by misfits alone. -/
theorem misfits_fitFields (fields : List FieldDecl) (es : List (String × Json)) :
    Misfits (Json.fitFields Γ fields es) := by
  match fields with
  | [] =>
    rw [Json.fitFields]
    exact misfits_ok _
  | f :: rest =>
    rw [Json.fitFields]
    refine Misfits.both ?_ (misfits_fitFields rest es)
    split
    · rename_i j hj _
      exact misfits_fit f.hint j
    · split
      · exact misfits_ok _
      · exact misfits_error rfl
termination_by (sizeOf es, sizeOf fields)

/-- A JSON fails to fit all members of a union by misfits alone. -/
theorem misfits_fitUnion (hs : List Hint) (j : Json) (best : Option Fit) :
    Misfits (Json.fitUnion Γ hs j best) := by
  match hs with
  | [] =>
    cases best <;> rw [Json.fitUnion]
    · exact misfits_error rfl
    · exact misfits_ok _
  | h :: hs =>
    rw [Json.fitUnion]
    split
    · split
      · exact misfits_ok _
      · exact misfits_fitUnion hs j _
    · exact misfits_fitUnion hs j best
    · rename_i e _ he
      exact misfits_error (misfits_fit h j e he)
termination_by (sizeOf j, sizeOf hs)

end

end Carryover
