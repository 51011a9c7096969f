import Carryover.Hint.Basic
import Mathlib.Data.List.Basic

/-!
# Unions that list each member once

A union is made of members that differ: unions among them are opened, and of the same ones the first
is kept. So the parts of a type list each of their members once, if those that the type is made of
do (`isProper_unionOf`).
-/

namespace Carryover
namespace Hint

mutual

/-- Whether the unions in a type list each member once. -/
def isProper : Hint → Bool
  | .row _ _ item => item.isProper
  | .dict _ key value => key.isProper && value.isProper
  | .tuple hs => allProper hs
  | .union hs => allProper hs && decide (hs.Pairwise fun h k => h.same k = false)
  | .annotated base _ => base.isProper
  | _ => true

/-- Whether the unions in each of some types list each member once. -/
def allProper : List Hint → Bool
  | [] => true
  | h :: hs => h.isProper && allProper hs

end

theorem allProper_iff {hs : List Hint} :
    allProper hs = true ↔ ∀ h ∈ hs, h.isProper = true := by
  induction hs with
  | nil => simp [allProper]
  | cons h hs ih => simp [allProper, ih]

/-- A union is proper if its members are and no two of them are the same. -/
theorem isProper_union {hs : List Hint} : (union hs).isProper = true ↔
    (∀ h ∈ hs, h.isProper = true) ∧ hs.Pairwise fun h k => h.same k = false := by
  simp [isProper, allProper_iff]

/-- A type that is added to those that differ differs from them, or is left out. -/
theorem pairwise_kept {hs acc : List Hint} (hacc : acc.Pairwise fun h k => h.same k = false) :
    (hs.foldl (fun acc h => if acc.any fun k => same k h then acc else acc ++ [h]) acc).Pairwise
      fun h k => h.same k = false := by
  refine List.foldlRecOn hs _ hacc fun acc hacc h _ => ?_
  split_ifs with hany
  · exact hacc
  · refine List.pairwise_append.mpr ⟨hacc, List.pairwise_singleton _ _, fun k hk x hx => ?_⟩
    obtain rfl := List.mem_singleton.mp hx
    simpa using fun hs => hany (List.any_eq_true.mpr ⟨k, hk, hs⟩)

/-- What is kept of types is among them. -/
theorem mem_of_mem_kept {hs : List Hint} {x : Hint}
    (hx : x ∈ hs.foldl (fun acc h => if acc.any fun k => same k h then acc else acc ++ [h]) []) :
    x ∈ hs := by
  refine List.foldlRecOn hs _ (motive := fun acc => ∀ x ∈ acc, x ∈ hs) (List.forall_mem_nil _)
    (fun acc hacc h hh => ?_) x hx
  split_ifs
  · exact hacc
  · exact List.forall_mem_append.mpr ⟨hacc, List.forall_mem_singleton.mpr hh⟩

/-- **The union of types that list each member once lists each member once.** -/
theorem isProper_unionOf {hs : List Hint} (hhs : ∀ h ∈ hs, h.isProper = true) :
    (unionOf hs).isProper = true := by
  unfold unionOf
  dsimp only
  generalize hflat : List.flatMap _ hs = opened
  have hopened : ∀ x ∈ opened, x.isProper = true := by
    rw [← hflat]
    intro x hx
    obtain ⟨h, hh, hx⟩ := List.mem_flatMap.mp hx
    have hproper := hhs h hh
    cases h with
    | union ks => exact (isProper_union.mp hproper).1 x hx
    | _ =>
      obtain rfl := List.mem_singleton.mp hx
      exact hproper
  split
  · rename_i h hkept
    exact hopened h (mem_of_mem_kept (by rw [hkept]; exact List.mem_singleton_self h))
  · exact isProper_union.mpr ⟨fun h hh => hopened h (mem_of_mem_kept hh),
      pairwise_kept List.Pairwise.nil⟩

end Hint
end Carryover
