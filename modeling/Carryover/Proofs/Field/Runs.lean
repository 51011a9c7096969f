import Carryover.Field.Declaration
import Carryover.Proofs.Entries
import Mathlib.Data.List.Induction

/-!
# Which declarations make the fields

Of the declarations of an attribute the last one decides: it makes the field, or there is none
if it carries no directive. The place of the field is that of another declaration. Declarations
with directives that stand one after the other, without one between them that carries none, are
a run; the run that the declarations of the attribute end in begins where the attribute became a
field for the last time (`runStart`).

`Makes` states of the fields, kept by attribute, that each follows from the last declaration and
that they stand in the order of these beginnings. One more declaration keeps it (`Makes.declare`).
-/

namespace Carryover

open Entries

/-- The field that a declaration makes, if it carries a directive. -/
def Declaration.field? (d : Declaration) : Option Field :=
  d.directive.map fun directive => ⟨d.name, d.attr, d.owner, directive⟩

/-- The last declaration of an attribute. -/
def lastOf (ds : List Declaration) (attr : String) : Option Declaration :=
  (ds.filter fun d => d.attr = attr).getLast?

/-- Where the run begins that the declarations of an attribute end in: the position of the first
declaration of the attribute after which all of them carry directives. -/
def runStart (ds : List Declaration) (attr : String) : Option Nat :=
  let backwards := (ds.zipIdx.filter fun d => d.1.attr = attr).reverse
  (backwards.takeWhile fun d => d.1.directive.isSome).getLast?.map (·.2)

variable {ds : List Declaration} {es : Entries String Field}

/-- The last declaration counts if it is one of the attribute. -/
theorem lastOf_concat (ds : List Declaration) (d : Declaration) (attr : String) :
    lastOf (ds ++ [d]) attr = if d.attr = attr then some d else lastOf ds attr := by
  unfold lastOf
  rw [List.filter_append]
  split_ifs with h
  · simp [h]
  · simp [h]

/-- The last declaration of an attribute is one of it. -/
theorem lastOf_attr {d : Declaration} {attr : String} (h : lastOf ds attr = some d) :
    d.attr = attr := by
  have hd := List.mem_of_getLast? h
  simpa using (List.mem_filter.mp hd).2

/-- A declaration without a directive ends a run; one with a directive goes on with the run, or
begins one. -/
theorem runStart_concat (ds : List Declaration) (d : Declaration) (attr : String) :
    runStart (ds ++ [d]) attr =
      if d.attr = attr then
        if d.directive.isSome then some ((runStart ds attr).getD ds.length) else none
      else runStart ds attr := by
  unfold runStart
  rw [List.zipIdx_append, List.filter_append, List.reverse_append]
  split_ifs with h hd
  · simp only [List.zipIdx_singleton, Nat.zero_add, h, decide_true, List.filter_cons_of_pos,
      List.filter_nil, List.reverse_singleton, List.singleton_append, hd,
      List.takeWhile_cons_of_pos, List.getLast?_cons, Option.map_some]
    rw [Option.getD_map (fun x => x.2) (d, ds.length)]
  · simp [h, hd]
  · simp [h]

/-- The declaration with which the last run of an attribute starts is one of the declarations. -/
theorem runStart_lt {attr : String} {i : Nat} (h : runStart ds attr = some i) :
    i < ds.length := by
  induction ds using List.reverseRecOn generalizing i with
  | nil => cases h
  | append_singleton ds d ih =>
    rw [runStart_concat] at h
    rw [List.length_append, List.length_singleton]
    split_ifs at h
    · cases hr : runStart ds attr with
      | none =>
        rw [hr] at h
        obtain rfl := Option.some.inj h
        exact Nat.lt_succ_self _
      | some j =>
        rw [hr] at h
        cases h
        exact Nat.lt_succ_of_lt (ih hr)
    · exact Nat.lt_succ_of_lt (ih h)

/-- Whether the final run of an attribute begins before that of another one. -/
def RunBefore (ds : List Declaration) (a b : String) : Prop :=
  ∃ i j, runStart ds a = some i ∧ runStart ds b = some j ∧ i < j

/-- Whether declarations make the fields that are kept by attribute. -/
structure Makes (ds : List Declaration) (es : Entries String Field) : Prop where
  nodup : (keys es).Nodup
  /-- The last declaration of an attribute makes its field. -/
  get? : ∀ a, get? es a = (lastOf ds a).bind Declaration.field?
  /-- The attributes with a field are those whose declarations end in a run. -/
  mem_keys : ∀ a, a ∈ keys es ↔ ∃ i, runStart ds a = some i
  /-- The fields stand in the order in which the final runs begin. -/
  ordered : (keys es).Pairwise (RunBefore ds)

/-- No declarations make no fields. -/
theorem makes_nil : Makes [] [] where
  nodup := .nil
  get? _ := rfl
  mem_keys a := by simp [runStart]
  ordered := .nil

/-- A declaration does not move the runs of other attributes. -/
theorem RunBefore.concat {a b : String} {d : Declaration} (h : RunBefore ds a b)
    (ha : d.attr ≠ a) (hb : d.attr ≠ b) : RunBefore (ds ++ [d]) a b := by
  obtain ⟨i, j, hi, hj, hij⟩ := h
  exact ⟨i, j, by rw [runStart_concat, if_neg ha, hi], by rw [runStart_concat, if_neg hb, hj], hij⟩

/-- A declaration with a directive does not move a run. -/
theorem runStart_concat_of_directive {a : String} {d : Declaration} {i : Nat}
    (h : runStart ds a = some i) (hd : d.directive.isSome = true) :
    runStart (ds ++ [d]) a = some i := by
  rw [runStart_concat, if_pos hd, h]
  split_ifs <;> rfl

/-- A declaration without a directive takes the field of its attribute away. -/
theorem Makes.erase (h : Makes ds es) {d : Declaration} (hd : d.directive = none) :
    Makes (ds ++ [d]) (erase es d.attr) where
  nodup := by
    rw [keys_erase]
    exact h.nodup.erase _
  get? a := by
    rw [get?_erase h.nodup, lastOf_concat]
    split_ifs
    · simp [Declaration.field?, hd]
    · exact h.get? a
  mem_keys a := by
    rw [keys_erase, h.nodup.mem_erase_iff, h.mem_keys, runStart_concat, hd]
    by_cases ha : d.attr = a
    · simp [ha]
    · simp [ha, Ne.symm ha]
  ordered := by
    rw [keys_erase]
    refine (h.ordered.sublist List.erase_sublist).imp_of_mem fun ha hb hab => ?_
    rw [h.nodup.mem_erase_iff] at ha hb
    exact hab.concat ha.1.symm hb.1.symm

/-- A declaration with a directive takes the place of the field of its attribute, or comes
last. -/
theorem Makes.put (h : Makes ds es) {d : Declaration} {v : Directive}
    (hd : d.directive = some v) :
    Makes (ds ++ [d]) (put es d.attr ⟨d.name, d.attr, d.owner, v⟩) where
  nodup := nodup_keys_put h.nodup _ _
  get? a := by
    rw [get?_put, lastOf_concat]
    split_ifs with ha
    · simp [Declaration.field?, hd]
    · exact h.get? a
  mem_keys a := by
    have ha := h.mem_keys a
    rw [keys_put, runStart_concat, hd]
    by_cases heq : d.attr = a
    · subst heq
      split_ifs <;> simp_all
    · split_ifs <;> simp_all [Ne.symm heq]
  ordered := by
    have hsome : d.directive.isSome = true := by rw [hd]; rfl
    have hmoved : (keys es).Pairwise (RunBefore (ds ++ [d])) := by
      refine h.ordered.imp ?_
      rintro a b ⟨i, j, hi, hj, hij⟩
      refine ⟨i, j, ?_, ?_, hij⟩
      · exact runStart_concat_of_directive hi hsome
      · exact runStart_concat_of_directive hj hsome
    rw [keys_put]
    split_ifs with hk
    · exact hmoved
    · have hnone : runStart ds d.attr = none := by
        rw [h.mem_keys] at hk
        exact Option.eq_none_iff_forall_ne_some.mpr (not_exists.mp hk)
      refine List.pairwise_append.mpr ⟨hmoved, List.pairwise_singleton _ _, ?_⟩
      intro a ha b hb
      obtain rfl := List.mem_singleton.mp hb
      obtain ⟨i, hi⟩ := (h.mem_keys a).mp ha
      refine ⟨i, ds.length, runStart_concat_of_directive hi hsome, ?_, runStart_lt hi⟩
      rw [runStart_concat, if_pos rfl, if_pos hsome, hnone]
      rfl

/-- **One more declaration keeps that the declarations make the fields.** -/
theorem Makes.declare (h : Makes ds es) (d : Declaration) :
    Makes (ds ++ [d]) (declare es d) := by
  unfold Carryover.declare
  cases hd : d.directive with
  | none => exact h.erase hd
  | some v => exact h.put hd

/-- Declarations make the fields that declaring one after the other gives. -/
theorem makes_foldl (ds : List Declaration) : Makes ds (ds.foldl declare []) := by
  induction ds using List.reverseRecOn with
  | nil => exact makes_nil
  | append_singleton ds d ih =>
    rw [List.foldl_concat]
    exact ih.declare d

/-- Whether fields are those of a list of declarations, in order. -/
structure AreFieldsOf (ds : List Declaration) (fields : List Field) : Prop where
  /-- There is one field of each attribute at most. -/
  nodup : (fields.map (·.attr)).Nodup
  /-- An attribute has a field exactly if its last declaration carries a directive, and it is the
  field that this declaration makes. -/
  mem_iff : ∀ f, f ∈ fields ↔ ∃ d, lastOf ds f.attr = some d ∧ d.name = f.name ∧
    d.owner = f.owner ∧ d.directive = some f.directive
  /-- The fields stand in the order in which the final runs of their attributes begin. -/
  ordered : fields.Pairwise fun f g => RunBefore ds f.attr g.attr

/-- The fields of declarations are what the declarations make. -/
theorem areFieldsOf_fieldsOf (ds : List Declaration) : AreFieldsOf ds (fieldsOf ds) := by
  have h := makes_foldl ds
  unfold fieldsOf
  generalize ds.foldl declare [] = es at h
  have hfield {d : Declaration} {f : Field} : d.field? = some f ↔
      d.attr = f.attr ∧ d.name = f.name ∧ d.owner = f.owner ∧ d.directive = some f.directive := by
    obtain ⟨name, attr, owner, directive⟩ := f
    simp only [Declaration.field?, Option.map_eq_some_iff, Field.mk.injEq]
    grind
  have hattr : ∀ e ∈ es, e.2.attr = e.1 := by
    rintro ⟨k, f⟩ he
    have hget := get?_of_mem h.nodup he
    rw [h.get?] at hget
    obtain ⟨d, hd, hf⟩ := Option.bind_eq_some_iff.mp hget
    exact (hfield.mp hf).1.symm.trans (lastOf_attr hd)
  have hkeys : (es.map (·.2)).map (·.attr) = keys es := by
    rw [List.map_map]
    exact List.map_congr_left hattr
  refine ⟨?_, fun f => ?_, ?_⟩
  · rw [hkeys]
    exact h.nodup
  · have hmem : f ∈ es.map (·.2) ↔ get? es f.attr = some f := by
      constructor
      · intro hf
        obtain ⟨⟨k, f⟩, he, rfl⟩ := List.mem_map.mp hf
        have hk : f.attr = k := hattr _ he
        rw [hk]
        exact get?_of_mem h.nodup he
      · intro hf
        exact List.mem_map.mpr ⟨_, mem_of_get? hf, rfl⟩
    rw [hmem, h.get?, Option.bind_eq_some_iff]
    refine exists_congr fun d => and_congr_right fun hd => ?_
    rw [hfield]
    exact and_iff_right (lastOf_attr hd)
  · rw [List.pairwise_map]
    have hordered := h.ordered
    rw [keys, List.pairwise_map] at hordered
    refine hordered.imp_of_mem fun he he' hee => ?_
    rw [hattr _ he, hattr _ he']
    exact hee

end Carryover
