import Carryover.Proofs.Class.Construct
import Carryover.Proofs.Json.Misfit
import Carryover.Proofs.Stored.TypeRead

/-!
# How reads fail

A read into a type that can carry a value gives a value or fails as a conversion, with the key, the
class of the value and the type, except in three cases (`Escapes`), in which the failure comes out
as it is.

| failure | comes out as it is |
| --- | --- |
| the value has no JSON text, or its text does not fit | never |
| the type has an annotation that names something unknown | always |
| evaluating an annotation, making an object | unless it refuses a value or a type |
-/

namespace Carryover

variable {Γ : Classes} {s : Session} {target : Hint}

/-- Whether a failure says why nothing can be read into a type. -/
def Failure.isSchemaFault : Failure → Bool
  | .noSchema | .unfinishedType | .raised _ => true
  | _ => false

/-- Whether what is said of a type, if anything, is why nothing can be read into it. -/
def SaysWhy (o : Option Failure) : Prop :=
  ∀ e, o = some e → e.isSchemaFault = true

theorem saysWhy_none : SaysWhy none :=
  fun _ h => nomatch h

/-- A failure of a schema says why there is none. -/
theorem saysWhy_some {e : Failure} (h : e.isSchemaFault = true) : SaysWhy (some e) := by
  rintro _ ⟨⟩
  exact h

/-- The first of two failures says why, if each of them does. -/
theorem SaysWhy.orElse {o o' : Option Failure} (h : SaysWhy o) (h' : SaysWhy o') :
    SaysWhy (o.orElse fun _ => o') := by
  cases o with
  | none => exact h'
  | some e => exact h

/-- A fault of an annotation says why there is no schema. -/
theorem saysWhy_firstFailure {fields : List FieldDecl} :
    SaysWhy (Hint.firstFailure (fields.map fun f =>
      match f.hint with
      | .failing _ fault =>
        if fault.kind.isA .unknownName then none else some (Failure.raised fault)
      | _ => none)) := by
  intro e he
  obtain ⟨o, ho, rfl⟩ := List.exists_of_findSome?_eq_some he
  obtain ⟨f, -, hf⟩ := List.mem_map.mp ho
  split at hf
  · split_ifs at hf
    cases hf
    rfl
  · cases hf

mutual

/-- What is said of a type is why nothing can be read into it. -/
theorem saysWhy_schemaFailure (room : Nat) (seen : List String) (h : Hint) :
    SaysWhy (Hint.schemaFailure Γ room seen h) := by
  rw [Hint.schemaFailure.eq_def]
  split
  · split
    · exact saysWhy_none
    · exact saysWhy_some rfl
  · exact saysWhy_some rfl
  · rename_i name
    split
    · exact saysWhy_some rfl
    · split
      · exact saysWhy_none
      · split_ifs
        · exact saysWhy_some rfl
        · exact saysWhy_none
        · split
          · exact saysWhy_none
          · rename_i room
            exact saysWhy_fieldsFailure room _ _
  · exact saysWhy_none
  · exact saysWhy_none
  · exact saysWhy_schemaFailure room seen _
  · exact (saysWhy_schemaFailure room seen _).orElse (saysWhy_schemaFailure room seen _)
  · exact saysWhy_anyFailure room seen _
  · exact saysWhy_anyFailure room seen _
  · exact saysWhy_none
  · exact saysWhy_schemaFailure room seen _
  · exact saysWhy_some rfl
  · exact saysWhy_none
  · exact saysWhy_schemaFailure room seen _
  · exact saysWhy_schemaFailure room seen _
  · split_ifs
    · exact saysWhy_some rfl
    · exact saysWhy_some rfl
  · exact saysWhy_none
  all_goals exact saysWhy_some rfl
termination_by (room, sizeOf h)

/-- The first failure of several types says why. -/
theorem saysWhy_anyFailure (room : Nat) (seen : List String) (hs : List Hint) :
    SaysWhy (Hint.anyFailure Γ room seen hs) := by
  match hs with
  | [] =>
    rw [Hint.anyFailure]
    exact saysWhy_none
  | h :: hs =>
    rw [Hint.anyFailure]
    exact (saysWhy_schemaFailure room seen h).orElse (saysWhy_anyFailure room seen hs)
termination_by (room, sizeOf hs)

/-- The first failure of fields says why. -/
theorem saysWhy_fieldsFailure (room : Nat) (seen : List String) (fields : List FieldDecl) :
    SaysWhy (Hint.fieldsFailure Γ room seen fields) := by
  rw [Hint.fieldsFailure]
  exact saysWhy_firstFailure.orElse (saysWhy_eachFailure room seen fields)
termination_by (room, sizeOf fields + 1)

/-- The first failure of the types of fields says why. -/
theorem saysWhy_eachFailure (room : Nat) (seen : List String) (fields : List FieldDecl) :
    SaysWhy (Hint.eachFailure Γ room seen fields) := by
  match fields with
  | [] =>
    rw [Hint.eachFailure]
    exact saysWhy_none
  | f :: fields =>
    rw [Hint.eachFailure]
    exact (saysWhy_schemaFailure room seen f.hint).orElse (saysWhy_eachFailure room seen fields)
termination_by (room, sizeOf fields)
decreasing_by
  all_goals simp_wf
  · apply Prod.Lex.right; cases f; simp; omega
  · apply Prod.Lex.right; omega

end

/-- A value fails to have a text in one way only. -/
theorem storedText_error {v : Value} {e : Failure} (h : Γ.storedText v = .error e) :
    e = .unwritable := by
  unfold Classes.storedText at h
  split at h
  · cases h
  · unfold Classes.jsonTextOf at h
    split at h <;> cases h
    rfl

/-- A text that is not read by an adapter does not fit. -/
theorem readAs_error {text : String} {e : Failure} (h : Γ.readAs target text = .error e) :
    e.isMisfit = true := by
  unfold Classes.readAs at h
  split at h
  · cases h
    rfl
  · rename_i j _
    split at h
    · cases h
    · rename_i hfit
      cases h
      exact misfits_fit target j e hfit

/-! ### Which of them come out as they are -/

/-- What does not fit is converted. -/
theorem isConverted_of_isMisfit {e : Failure} (h : e.isMisfit = true) : e.isConverted = true := by
  cases e with
  | unfit | noSchema => rfl
  | _ => cases h

/-- Nothing can be read into a plain class, wherever it stands. -/
theorem schemaFailure_of_plain {name : String} {d : ClassDecl} (hd : Γ.find? name = some d)
    (hkind : d.kind = .plain) (hrecord : Γ.isRecord (.declared name) = false)
    (hmodel : Γ.isModel (.declared name) = false) (room : Nat) (seen : List String) :
    (Hint.cls (.declared name)).schemaFailure Γ room seen = some .noSchema := by
  simp [Hint.schemaFailure.eq_def, hd, hkind, hrecord, hmodel]

/-- A plain class has no schema. -/
theorem unreadable?_of_plain {name : String} {d : ClassDecl} (hd : Γ.find? name = some d)
    (hkind : d.kind = .plain) (hrecord : Γ.isRecord (.declared name) = false)
    (hmodel : Γ.isModel (.declared name) = false) :
    (Hint.cls (.declared name)).unreadable? Γ = some .noSchema :=
  schemaFailure_of_plain hd hkind hrecord hmodel _ _

/-- A text is read as a class that nothing can be read into by making an object of it. -/
theorem readType_of_noSchema {c : ClassName}
    (h : (Hint.cls c).unreadable? s.classes = some .noSchema) (text : String) :
    s.readType (.cls c) text = s.classes.readArguments c text := by
  unfold Session.readType
  rw [h]
  rfl

end Carryover
