import Carryover.Proofs.Json.RoundTrip
import Carryover.Proofs.Number.Numeral

/-!
# Trees that are read are within the limits

The limits of the reader are those of the trees it gives.

| limit | kept because |
| --- | --- |
| whole numbers of at most 4300 digits | a number has no more digits than it is written with |
| at most 200 lists and objects around a value | the depth is counted on the way in |
| one value under each key | entries are put in one by one |

So a tree that was read is read again from the text it is written as (`parse?_render_of_parse?`),
whatever the text it was read from looked like.
-/

namespace Carryover
namespace Json

open Number

/-! ### Numbers -/

/-- Whether the scalar of a token, if it has one, is readable wherever a scalar is. -/
def Token.IsShort : Token → Prop
  | .scalar j => ∀ depth ≤ depthLimit, Readable depth j
  | _ => True

mutual

/-- A value put together from short tokens is readable, and the tokens after it are short. -/
theorem readable_of_value? : ∀ {fuel depth : Nat} {ts rest : List Token} {j : Json},
    (∀ t ∈ ts, t.IsShort) → value? fuel depth ts = some (j, rest) →
      Readable depth j ∧ ∀ t ∈ rest, t.IsShort
  | 0, depth, ts, rest, j, hts, h => nomatch h
  | fuel + 1, depth, ts, rest, j, hts, h => by
    rw [value?.eq_def] at h
    dsimp only at h
    rw [Option.ite_none_left_eq_some] at h
    obtain ⟨hdepth, h⟩ := h
    replace hdepth := not_lt.mp hdepth
    split at h
    · cases h
      obtain ⟨hj, hrest⟩ := List.forall_mem_cons.mp hts
      exact ⟨hj depth hdepth, hrest⟩
    · cases h
      exact ⟨.list hdepth (List.forall_mem_nil _), fun t ht => hts t (by simp [ht])⟩
    · obtain ⟨⟨js, after⟩, hitems, heq⟩ := Option.map_eq_some_iff.mp h
      cases heq
      obtain ⟨hjs, hrest⟩ := readable_of_items? (List.forall_mem_cons.mp hts).2 hitems
      exact ⟨.list hdepth hjs, hrest⟩
    · cases h
      exact ⟨.object hdepth List.nodup_nil (List.forall_mem_nil _),
        fun t ht => hts t (by simp [ht])⟩
    · obtain ⟨⟨es, after⟩, hmembers, heq⟩ := Option.map_eq_some_iff.mp h
      cases heq
      obtain ⟨hes, hrest⟩ := readable_of_members? (List.forall_mem_cons.mp hts).2 hmembers
      have hkeys := Entries.nodup_keys_putAll Entries.nodup_keys_nil es
      refine ⟨.object hdepth hkeys fun e he => ?_, hrest⟩
      exact hes e ((Entries.mem_putAll he).resolve_left List.not_mem_nil)
    · cases h

/-- The items that are read are within the limits of the reader. -/
theorem readable_of_items? : ∀ {fuel depth : Nat} {ts rest : List Token} {js : List Json},
    (∀ t ∈ ts, t.IsShort) → items? fuel depth ts = some (js, rest) →
      (∀ j ∈ js, Readable depth j) ∧ ∀ t ∈ rest, t.IsShort
  | 0, depth, ts, rest, js, hts, h => nomatch h
  | fuel + 1, depth, ts, rest, js, hts, h => by
    rw [items?] at h
    obtain ⟨⟨j, after⟩, hvalue, h⟩ := Option.bind_eq_some_iff.mp h
    obtain ⟨hj, hafter⟩ := readable_of_value? hts hvalue
    dsimp only at h
    split at h
    · obtain ⟨⟨more, tail⟩, hitems, heq⟩ := Option.bind_eq_some_iff.mp h
      cases heq
      obtain ⟨hmore, hrest⟩ := readable_of_items? (List.forall_mem_cons.mp hafter).2 hitems
      exact ⟨List.forall_mem_cons.mpr ⟨hj, hmore⟩, hrest⟩
    · cases h
      exact ⟨List.forall_mem_singleton.mpr hj, (List.forall_mem_cons.mp hafter).2⟩
    · cases h

/-- The members that are read are within the limits of the reader. -/
theorem readable_of_members? : ∀ {fuel depth : Nat} {ts rest : List Token}
    {es : List (String × Json)}, (∀ t ∈ ts, t.IsShort) → members? fuel depth ts = some (es, rest) →
      (∀ e ∈ es, Readable depth e.2) ∧ ∀ t ∈ rest, t.IsShort
  | 0, depth, ts, rest, es, hts, h => nomatch h
  | fuel + 1, depth, ts, rest, es, hts, h => by
    rw [members?.eq_def] at h
    dsimp only at h
    split at h
    · rename_i k ts
      obtain ⟨⟨j, after⟩, hvalue, h⟩ := Option.bind_eq_some_iff.mp h
      obtain ⟨hj, hafter⟩ := readable_of_value? (fun t ht => hts t (by simp [ht])) hvalue
      dsimp only at h
      split at h
      · obtain ⟨⟨more, tail⟩, hmembers, heq⟩ := Option.bind_eq_some_iff.mp h
        cases heq
        obtain ⟨hmore, hrest⟩ := readable_of_members? (List.forall_mem_cons.mp hafter).2 hmembers
        exact ⟨List.forall_mem_cons.mpr ⟨hj, hmore⟩, hrest⟩
      · cases h
        exact ⟨List.forall_mem_singleton.mpr hj, (List.forall_mem_cons.mp hafter).2⟩
      · cases h
    · cases h

end

end Json
end Carryover
