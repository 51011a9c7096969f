import Carryover.Class.Attribute
import Carryover.Proofs.Entries

/-!
# The fields of a class

The fields of a class are written one after the other to a table of names. So each name stands
once (`nodup_names_fields`), and a field is left out of the objects if its type says so
(`exists_initVar_of_initOnly`).
-/

namespace Carryover

open Entries

/-- What holds of a table of fields while fields are written to it. -/
structure FieldTable (table : Entries String FieldDecl) : Prop where
  nodup : (keys table).Nodup
  name : ∀ e ∈ table, e.2.name = e.1
  initOnly : ∀ e ∈ table, e.2.initOnly = true →
    ∃ kind, e.2.hint = .initVar kind ∨ ∃ text, e.2.hint = .written text (.initVar kind)

/-- The empty table is one. -/
theorem fieldTable_nil : FieldTable [] :=
  ⟨List.nodup_nil, List.forall_mem_nil _, List.forall_mem_nil _⟩

/-- A table of fields stays one when a field is written under its name. -/
theorem FieldTable.put {table : Entries String FieldDecl} (htable : FieldTable table)
    {f : FieldDecl} (hf : f.initOnly = true →
      ∃ kind, f.hint = .initVar kind ∨ ∃ text, f.hint = .written text (.initVar kind)) :
    FieldTable (Entries.put table f.name f) where
  nodup := nodup_keys_put htable.nodup f.name f
  name e he := by
    obtain rfl | he := mem_put he
    · rfl
    · exact htable.name e he
  initOnly e he := by
    obtain rfl | he := mem_put he
    · exact hf
    · exact htable.initOnly e he

variable (Γ : Classes) (c : ClassName)

/-- The fields of a class are the values of a table of fields. -/
theorem exists_fieldTable : ∃ table, FieldTable table ∧ Γ.fields c = table.map (·.2) := by
  refine ⟨_, ?_, rfl⟩
  refine List.foldlRecOn _ _ fieldTable_nil fun table htable d _ => ?_
  refine List.foldlRecOn _ _ htable fun table htable e _ => ?_
  obtain ⟨name, hint⟩ := e
  refine htable.put (f := ⟨name, hint, _, _⟩) fun hinit => ?_
  dsimp only at hinit
  split at hinit
  · rename_i hmeaning
    split at hmeaning
    · subst hmeaning
      exact ⟨_, .inr ⟨_, rfl⟩⟩
    · exact ⟨_, .inl hmeaning⟩
  · cases hinit

/-- Each name stands for one field. -/
theorem nodup_names_fields : ((Γ.fields c).map FieldDecl.name).Nodup := by
  obtain ⟨table, htable, hfields⟩ := exists_fieldTable Γ c
  have hnames : (Γ.fields c).map FieldDecl.name = keys table := by
    rw [hfields, List.map_map]
    exact List.map_congr_left htable.name
  rw [hnames]
  exact htable.nodup

variable {Γ c}

/-- A field that objects do not hold is of a type that says so. -/
theorem exists_initVar_of_initOnly {f : FieldDecl} (hf : f ∈ Γ.fields c)
    (hinit : f.initOnly = true) :
    ∃ kind, f.hint = .initVar kind ∨ ∃ text, f.hint = .written text (.initVar kind) := by
  obtain ⟨table, htable, hfields⟩ := exists_fieldTable Γ c
  rw [hfields] at hf
  obtain ⟨e, he, rfl⟩ := List.mem_map.mp hf
  exact htable.initOnly e he hinit

/-- Fields of one name are one. -/
theorem eq_of_name_eq {f g : FieldDecl} (hf : f ∈ Γ.fields c) (hg : g ∈ Γ.fields c)
    (hname : f.name = g.name) : f = g :=
  List.inj_on_of_nodup_map (nodup_names_fields Γ c) hf hg hname

end Carryover
