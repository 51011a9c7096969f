import Carryover.Proofs.Context.Change
import Mathlib.Data.List.Forall2
import Mathlib.Data.Option.Basic

/-!
# Contexts that tell their texts apart

A context holds the JSON texts it wrote apart from plain texts; a context that was stored and
restored does not. Two such contexts are alike (`Context.Alike`). Writes do not tell them apart:
the same write reports the same change to both, or fails on both, and leaves them alike
(`Context.Alike.mergeMany`).
-/

namespace Carryover

open Entries

/-- A value is like another one if it is the same, or a JSON text where the other one is a plain
text of the same characters. -/
inductive Value.Alike : Value → Value → Prop
  | same (v : Value) : Alike v v
  | text (s : String) : Alike (.jsonText s) (.text s)

namespace Value

variable {v w : Value}

/-- Like values are of one kind. -/
theorem Alike.storageKind_eq (h : v.Alike w) : v.storageKind = w.storageKind := by
  cases h <;> rfl

/-- Values that are alike equal the same values. -/
theorem Alike.equals_eq (h : v.Alike w) (u : Value) : v.equals u = w.equals u := by
  cases h with
  | same => rfl
  | text s =>
    have hj : (Value.jsonText s).asText? = some s := rfl
    have ht : (Value.text s).asText? = some s := rfl
    rw [equals_eq_scalarEquals rfl, equals_eq_scalarEquals rfl]
    cases hu : u.asText? with
    | some t => rw [scalarEquals_of_asText? hj hu, scalarEquals_of_asText? ht hu]
    | none => cases u <;> simp_all [scalarEquals, quantity?]

/-- Like values are the same in storage as the same values. -/
theorem Alike.sameStored_eq (h : v.Alike w) (u : Value) : v.sameStored u = w.sameStored u := by
  have hs : v.isSignalling = w.isSignalling := by cases h <;> rfl
  unfold sameStored
  rw [h.storageKind_eq, h.equals_eq, hs]

end Value

/-- Contexts are alike if they have the same keys in the same order, with values that are
alike. -/
def Context.Alike : Context → Context → Prop :=
  List.Forall₂ fun x y => x.1 = y.1 ∧ x.2.Alike y.2

variable {Γ : Classes} {c d : Context}

/-- Like contexts hold like values under the same keys. -/
theorem Context.Alike.get? (h : c.Alike d) (k : String) :
    Option.Rel Value.Alike (Entries.get? c k) (Entries.get? d k) := by
  induction h with
  | nil => exact .none
  | @cons x y c d hxy _ ih =>
    obtain ⟨j, v⟩ := x
    obtain ⟨j', w⟩ := y
    obtain ⟨rfl, hvw⟩ := hxy
    by_cases hk : j = k
    · simpa [Entries.get?, hk] using hvw
    · simpa [Entries.get?, hk] using ih

/-- A value that is put into like contexts leaves them alike. -/
theorem Context.Alike.put (h : c.Alike d) (k : String) (v : Value) :
    Context.Alike (put c k v) (put d k v) := by
  induction h with
  | nil => exact .cons ⟨rfl, .same v⟩ .nil
  | @cons x y c d hxy hcd ih =>
    obtain ⟨j, u⟩ := x
    obtain ⟨j', w⟩ := y
    obtain ⟨rfl, huw⟩ := hxy
    by_cases hk : j = k
    · simp only [Entries.put, if_pos hk]
      exact .cons ⟨rfl, .same v⟩ hcd
    · simp only [Entries.put, if_neg hk]
      exact .cons ⟨rfl, huw⟩ ih

/-- A write does not tell contexts that are alike apart. -/
theorem Context.Alike.mergeOne (h : c.Alike d) (key : String) (v : Value) :
    (perform (mergeOne Γ key v) c).1 = (perform (mergeOne Γ key v) d).1 ∧
      (perform (mergeOne Γ key v) c).2.Alike (perform (mergeOne Γ key v) d).2 := by
  by_cases hn : v = .null
  · subst hn
    exact ⟨rfl, h⟩
  · rw [perform_mergeOne hn, perform_mergeOne hn]
    cases Γ.encode v with
    | error f => exact ⟨rfl, h⟩
    | ok w =>
      refine ⟨?_, h.put key w⟩
      have hg := h.get? key
      cases hc : Entries.get? c key <;> cases hd : Entries.get? d key <;> simp only [hc, hd] at hg
      · rfl
      · cases hg
      · cases hg
      · rename_i u u'
        have hu : u.Alike u' := by cases hg; assumption
        dsimp only
        rw [hu.sameStored_eq]

/-- Merging into like contexts has the same result and leaves them alike. -/
theorem Context.Alike.mergeEach (h : c.Alike d) (es : List (String × Value)) :
    (perform (mergeEach Γ es) c).1 = (perform (mergeEach Γ es) d).1 ∧
      (perform (mergeEach Γ es) c).2.Alike (perform (mergeEach Γ es) d).2 := by
  induction es generalizing c d with
  | nil => exact ⟨rfl, h⟩
  | cons x rest ih =>
    have hx := Context.Alike.mergeOne (Γ := Γ) h x.1 x.2
    rw [perform_mergeEach_cons, perform_mergeEach_cons]
    generalize perform (Carryover.mergeOne Γ x.1 x.2) c = p at hx ⊢
    generalize perform (Carryover.mergeOne Γ x.1 x.2) d = q at hx ⊢
    obtain ⟨r, c'⟩ := p
    obtain ⟨r', d'⟩ := q
    obtain ⟨rfl, h'⟩ := hx
    cases r with
    | error f => exact ⟨rfl, h'⟩
    | ok first =>
      have hrest := ih h'
      dsimp only
      generalize perform (Carryover.mergeEach Γ rest) c' = p at hrest ⊢
      generalize perform (Carryover.mergeEach Γ rest) d' = q at hrest ⊢
      obtain ⟨r, c''⟩ := p
      obtain ⟨r', d''⟩ := q
      obtain ⟨rfl, h''⟩ := hrest
      cases r <;> exact ⟨rfl, h''⟩

/-- **Writes do not tell contexts that are alike apart.** -/
theorem Context.Alike.mergeMany (h : c.Alike d) (es : List (String × Value)) :
    (perform (mergeMany Γ es) c).1 = (perform (mergeMany Γ es) d).1 ∧
      (perform (mergeMany Γ es) c).2.Alike (perform (mergeMany Γ es) d).2 :=
  h.mergeEach _

end Carryover
