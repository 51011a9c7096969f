import Carryover.Proofs.Json.Objects
import Carryover.Proofs.Value.Sameness
import Carryover.Stored.Drain

/-!
# What is left of values

What is left of a value after iterators have been run through is of the same kind: absent, a number
or stored as it is exactly if the value was (`Value.drained_eq_null_iff`,
`Value.isPrimitive_drained`), and a value of the program if the value was one
(`admits_drained`). So values that are stored one after the other stand under the same keys
when their turn comes (`Classes.keys_inTurn`), and a fact that holds of what is left of a value holds
in turn (`Classes.forall_mem_inTurn`). Some of them in turn are the first ones in turn, and then the
others after what these have used up (`Classes.inTurn_append`).
-/

namespace Carryover

open Entries

namespace Value

variable {Γ : Classes} {marks : List Nat}

theorem drainedItems_eq_map (marks : List Nat) (vs : List Value) :
    drainedItems marks vs = vs.map (drained marks) := by
  induction vs with
  | nil => rfl
  | cons v vs ih => rw [drainedItems, ih, List.map_cons]

theorem drainedEntries_eq_map (marks : List Nat) (es : List (Value × Value)) :
    drainedEntries marks es = es.map fun e => (e.1, e.2.drained marks) := by
  induction es with
  | nil => rfl
  | cons e es ih => rw [drainedEntries, ih, List.map_cons]

theorem drainedAttrs_eq_map (marks : List Nat) (attrs : Entries String Value) :
    drainedAttrs marks attrs = attrs.map fun e => (e.1, e.2.drained marks) := by
  induction attrs with
  | nil => rfl
  | cons e attrs ih => rw [drainedAttrs, ih, List.map_cons]

mutual

/-- Nothing is taken from a value if no iterator has been run through. -/
theorem drained_nil : ∀ v : Value, v.drained [] = v
  | .row form items => by rw [drained, drainedItems_nil items]
  | .dict entries => by rw [drained, drainedEntries_nil entries]
  | .object cls attrs => by rw [drained, drainedAttrs_nil attrs]
  | .iterator kind mark items => by
    rw [drained, drainedItems_nil items]
    rfl
  | .null | .bool _ | .int _ | .float _ | .complex .. | .decimal _ | .fraction _ | .text _
  | .jsonText _ | .octets .. | .range _ | .date _ | .datetime _ | .time _ | .duration _ | .uuid _
  | .member .. | .number .. => rfl

/-- Nothing is taken from items if no iterator has been run through. -/
theorem drainedItems_nil : ∀ vs : List Value, drainedItems [] vs = vs
  | [] => rfl
  | v :: vs => by rw [drainedItems, drained_nil v, drainedItems_nil vs]

/-- Nothing is taken from entries if no iterator has been run through. -/
theorem drainedEntries_nil : ∀ es : List (Value × Value), drainedEntries [] es = es
  | [] => rfl
  | (k, v) :: es => by rw [drainedEntries, drained_nil v, drainedEntries_nil es]

/-- Nothing is taken from attributes if no iterator has been run through. -/
theorem drainedAttrs_nil : ∀ attrs : List (String × Value), drainedAttrs [] attrs = attrs
  | [] => rfl
  | (name, v) :: attrs => by rw [drainedAttrs, drained_nil v, drainedAttrs_nil attrs]

end

/-- Of a number, all is left. -/
theorem quantity?_drained (v : Value) : (v.drained marks).quantity? = v.quantity? := by
  cases v <;> rfl

/-- What is left of a value is stored as it is if the value is. -/
theorem isPrimitive_drained (v : Value) : (v.drained marks).isPrimitive = v.isPrimitive := by
  cases v <;> rfl

/-- What is left of a value is a NaN if the value is. -/
theorem isNan_drained (v : Value) : (v.drained marks).isNan = v.isNan := by
  rw [isNan, isNan, quantity?_drained]

/-- What is left of a value is a signalling NaN if the value is. -/
theorem isSignalling_drained (v : Value) : (v.drained marks).isSignalling = v.isSignalling := by
  cases v <;> rfl

/-- A value that is there is still there. -/
theorem drained_eq_null_iff {v : Value} : v.drained marks = .null ↔ v = .null := by
  cases v <;> simp [drained]

end Value

variable {Γ : Classes} {marks : List Nat}

/-- What is left of a value of the program is one. -/
theorem admits_drained {v : Value} (hv : Γ.Admits v) : Γ.Admits (v.drained marks) := by
  cases v <;> exact hv

namespace Classes

/-- What holds of values whatever iterators have been run through holds of them in turn. -/
theorem forall_mem_inTurn {P : String → Value → Prop}
    (hP : ∀ key v marks, P key v → P key (v.drained marks)) {es : List (String × Value)}
    (hes : ∀ x ∈ es, P x.1 x.2) (used : List Nat) : ∀ x ∈ Γ.inTurn used es, P x.1 x.2 := by
  induction es generalizing used with
  | nil => exact List.forall_mem_nil _
  | cons x rest ih =>
    rw [List.forall_mem_cons] at hes
    rw [inTurn, List.forall_mem_cons]
    exact ⟨hP _ _ _ hes.1, ih hes.2 _⟩

/-- Values of the program are still such when their turn comes. -/
theorem admits_inTurn {es : List (String × Value)} (hes : ∀ x ∈ es, Γ.Admits x.2) :
    ∀ x ∈ Γ.inTurn [] es, Γ.Admits x.2 :=
  forall_mem_inTurn (P := fun _ v => Γ.Admits v) (fun _ _ _ => admits_drained) hes []

/-- No value becomes a NaN before its turn. -/
theorem isNan_inTurn {es : List (String × Value)} (hes : ∀ x ∈ es, x.2.isNan = false) :
    ∀ x ∈ Γ.inTurn [] es, x.2.isNan = false :=
  forall_mem_inTurn (P := fun _ v => v.isNan = false)
    (fun _ v _ hv => (Value.isNan_drained v).trans hv) hes []

/-- Values in turn stand under the same keys. -/
theorem keys_inTurn (used : List Nat) (es : List (String × Value)) :
    keys (Γ.inTurn used es) = keys es := by
  induction es generalizing used with
  | nil => rfl
  | cons x rest ih => rw [inTurn, keys_cons, keys_cons, ih]

/-- The turn of further values comes after that of the first ones. -/
theorem inTurn_append (used : List Nat) (done rest : List (String × Value)) :
    Γ.inTurn used (done ++ rest) =
      Γ.inTurn used done ++ Γ.inTurn (used ++ Γ.usedUpBy done) rest := by
  induction done generalizing used with
  | nil => simp [inTurn, usedUpBy]
  | cons x done ih => simp [inTurn, usedUpBy, ih]

/-- A value that is stored in turn is one of the values, after those before it. -/
theorem exists_of_inTurn_eq_append {used : List Nat} {es done' rest' : List (String × Value)}
    {x' : String × Value} (h : Γ.inTurn used es = done' ++ x' :: rest') :
    ∃ done x rest, es = done ++ x :: rest ∧ Γ.inTurn used done = done' ∧
      x'.2 = x.2.drained (used ++ Γ.usedUpBy done) := by
  induction es generalizing used done' with
  | nil => simp [inTurn] at h
  | cons y es ih =>
    rw [inTurn] at h
    cases done' with
    | nil =>
      obtain ⟨rfl, -⟩ := List.cons.inj h
      exact ⟨[], y, es, rfl, rfl, by simp [usedUpBy]⟩
    | cons z done' =>
      obtain ⟨rfl, htail⟩ := List.cons.inj h
      obtain ⟨done, x, rest, rfl, rfl, hx⟩ := ih htail
      exact ⟨y :: done, x, rest, rfl, rfl, by simp [hx, usedUpBy]⟩

/-- A value that is alone is stored as it is. -/
theorem inTurn_singleton (key : String) (v : Value) : Γ.inTurn [] [(key, v)] = [(key, v)] := by
  rw [inTurn, inTurn, Value.drained_nil]

end Classes
end Carryover
