import Carryover.Json.OfValue
import Carryover.Proofs.Context.Change

/-!
# Stored values are written

A context holds texts, flags and numbers. Each of them has a JSON of its own
(`toJson?_of_isPrimitive`) but for the numbers of declared classes, which are stored like any other
and which nothing can write (`toJson?_declaredNumber`). So a context has a JSON exactly if it holds
none of these (`toJson?_context`). Writes keep a context of texts, flags and numbers, those included
that fail (`Context.Settled.mergeMany`).

| stored value | JSON |
| --- | --- |
| flag, whole number, double, text | the same |
| complex number, decimal number, fraction | a text |
| member of an enumeration | its value |
| number of a declared class | none |
-/

namespace Carryover

open Number Entries

/-- The tree that a text, a flag or a number is written as. -/
def Value.written : Value → Json
  | .bool b => .bool b
  | .int i => .int i
  | .float x => .float x
  | .complex re im => .text (complexJson re im)
  | .decimal d => .text d.render
  | .fraction q => .text (Fraction.render q)
  | .text s => .text s
  | .jsonText s => .text s
  | .member _ _ _ value => value.written
  | _ => .null

/-- The tree that a context is written as. -/
def Context.written (c : Context) : Json :=
  .object (c.map fun (k, v) => (k, v.written))

variable {Γ : Classes} {c : Context}

/-- A member of an enumeration that is stored as it is has a whole number or a text for its
value. -/
theorem value_of_isPrimitive {cls name : String} {mixin : Mixin} {w : Value}
    (hΓ : Γ.Admits (.member cls mixin name w))
    (hv : (Value.member cls mixin name w).isPrimitive = true) :
    (mixin = .int ∧ ∃ i, w = .int i) ∨ (mixin = .str ∧ ∃ s, w = .text s) := by
  obtain ⟨-, hint, hstr⟩ := hΓ
  cases mixin with
  | plain => simp [Value.isPrimitive, Value.asText?, Value.isNumber] at hv
  | int => exact .inl ⟨rfl, hint rfl⟩
  | str => exact .inr ⟨rfl, hstr rfl⟩

/-- **Texts, flags and numbers have a JSON**, with and without that of plain objects, but for the
numbers of declared classes. -/
theorem toJson?_of_isPrimitive {v : Value} (hΓ : Γ.Admits v) (hv : v.isPrimitive = true)
    (hn : v.isDeclaredNumber = false) (plainObjects : Bool) (room : Nat) :
    Γ.toJson? plainObjects (room + 2) v = some v.written := by
  cases v with
  | bool | int | float | complex | decimal | fraction | text | jsonText => rfl
  | member cls mixin name w =>
    obtain ⟨-, i, rfl⟩ | ⟨-, s, rfl⟩ := value_of_isPrimitive hΓ hv <;> rfl
  | number => cases hn
  | _ => cases hv

/-- **A number of a declared class has no JSON** without that of plain objects. -/
theorem toJson?_declaredNumber {v : Value} (hΓ : Γ.Admits v) (hn : v.isDeclaredNumber = true)
    (room : Nat) : Γ.toJson? false room v = none := by
  cases v with
  | number mark cls attrs =>
    obtain ⟨hrecord, hmodel⟩ := hΓ
    cases room with
    | zero => rfl
    | succ room =>
      unfold Classes.toJson?
      simp [hrecord, hmodel]
  | _ => cases hn

/-- Whether a context holds nothing but texts, flags and numbers. -/
def Context.Settled (Γ : Classes) (c : Context) : Prop :=
  ∀ e ∈ c, e.2.isPrimitive = true ∧ Γ.Admits e.2

/-- Whether a context holds a number of a declared class. -/
def Context.hasDeclaredNumber (c : Context) : Bool :=
  c.any fun e => e.2.isDeclaredNumber

/-- A step that succeeds on every member of a list succeeds on the list. -/
theorem mapM_eq_some {α β : Type} {f : α → Option β} {g : α → β} {xs : List α}
    (h : ∀ x ∈ xs, f x = some (g x)) : xs.mapM f = some (xs.map g) := by
  induction xs with
  | nil => rfl
  | cons x xs ih =>
    rw [List.mapM_cons, h x List.mem_cons_self, ih fun y hy => h y (List.mem_cons_of_mem _ hy)]
    rfl

/-- A step that fails on a member of a list fails on the list. -/
theorem mapM_eq_none {α β : Type} {f : α → Option β} {xs : List α} {x : α} (hx : x ∈ xs)
    (h : f x = none) : xs.mapM f = none := by
  induction xs with
  | nil => cases hx
  | cons y ys ih =>
    rw [List.mapM_cons]
    obtain rfl | hx := List.mem_cons.mp hx
    · rw [h]
      rfl
    · rw [ih hx]
      cases f y <;> rfl

/-- The JSON of a mapping with texts for keys is made of that of its entries. -/
theorem toJson?_texts (c : Context) (plainObjects : Bool) (room : Nat) :
    Γ.toJson? plainObjects (room + 1) (.dict (c.map fun (k, v) => (.text k, v))) =
      (c.mapM fun e => (Γ.toJson? plainObjects room e.2).map (e.1, ·)).map .object := by
  rw [Classes.toJson?, List.mapM_map]
  simp [Classes.keyText?, Function.comp_def, Option.map_eq_bind]

/-- The JSON of a list is made of that of its items. -/
theorem toJson?_list {plainObjects : Bool} {room : Nat} {vs : List Value} {g : Value → Json}
    (h : ∀ v ∈ vs, Γ.toJson? plainObjects room v = some (g v)) :
    Γ.toJson? plainObjects (room + 1) (.row .list vs) = some (.list (vs.map g)) := by
  rw [Classes.toJson?, mapM_eq_some h]
  · rfl
  · simp

/-- The entries of a context have a JSON exactly if none is a number of a declared class. -/
theorem mapM_toJson?_eq (hc : c.Settled Γ) (room : Nat) :
    (c.mapM fun e => (Γ.toJson? false (room + 2) e.2).map (e.1, ·)) =
      if c.hasDeclaredNumber then none else some (c.map fun (k, v) => (k, v.written)) := by
  cases hn : c.hasDeclaredNumber with
  | false =>
    rw [Context.hasDeclaredNumber, List.any_eq_false] at hn
    refine mapM_eq_some fun e he => ?_
    rw [toJson?_of_isPrimitive (hc e he).2 (hc e he).1 (Bool.not_eq_true _ ▸ hn e he)]
    rfl
  | true =>
    obtain ⟨e, he, hne⟩ := List.any_eq_true.mp hn
    refine mapM_eq_none he ?_
    rw [toJson?_declaredNumber (hc e he).2 hne]
    rfl

/-- **A context of texts, flags and numbers has a JSON exactly if it holds no number of a declared
class.** -/
theorem toJson?_context (hc : c.Settled Γ) (room : Nat) :
    Γ.toJson? false (room + 3) (.dict (c.map fun (k, v) => (.text k, v))) =
      if c.hasDeclaredNumber then none else some c.written := by
  rw [toJson?_texts, mapM_toJson?_eq hc]
  split_ifs <;> rfl

/-! ### What writes keep -/

theorem settled_nil : Context.Settled Γ [] :=
  fun _ he => nomatch he

namespace Context.Settled

/-- A context of texts, flags and numbers is one after such a value has been put. -/
theorem put (hc : c.Settled Γ) {w : Value} (hp : w.isPrimitive = true) (hw : Γ.Admits w)
    (key : String) : Settled Γ (put c key w) := by
  intro e he
  obtain rfl | he := mem_put he
  · exact ⟨hp, hw⟩
  · exact hc e he

/-- Merging a value keeps a context of texts, flags and numbers one. -/
theorem mergeOne (hc : c.Settled Γ) {v : Value} (hv : Γ.Admits v) (key : String) :
    (perform (mergeOne Γ key v) c).2.Settled Γ := by
  by_cases hn : v = .null
  · subst hn
    exact hc
  · rw [perform_mergeOne hn]
    cases he : Γ.encode v with
    | error f => exact hc
    | ok w => exact hc.put (isPrimitive_of_encode he) (admits_of_encode hv he) key

/-- Merging values one after the other keeps a context of texts, flags and numbers one. -/
theorem mergeEach (hc : c.Settled Γ) {es : List (String × Value)}
    (hes : ∀ x ∈ es, Γ.Admits x.2) : (perform (mergeEach Γ es) c).2.Settled Γ := by
  induction es generalizing c with
  | nil => exact hc
  | cons x rest ih =>
    have h := hc.mergeOne (hes x List.mem_cons_self) x.1
    rw [snd_mergeEach_cons]
    split_ifs
    · exact ih h fun y hy => hes y (List.mem_cons_of_mem _ hy)
    · exact h

/-- **Writes keep a context of texts, flags and numbers**, whether they come to their end or
fail. -/
theorem mergeMany (hc : c.Settled Γ) {es : List (String × Value)}
    (hes : ∀ x ∈ es, Γ.Admits x.2) : (perform (mergeMany Γ es) c).2.Settled Γ :=
  hc.mergeEach (Γ.admits_inTurn hes)

end Context.Settled
end Carryover
