import Carryover.Json.OfValue
import Carryover.Proofs.Entries

/-!
# How mappings and objects are written

The class of an object decides what is written of it.

| class | written |
| --- | --- |
| model | the attributes that are fields, under the names of the fields in the JSON |
| record | the fields in order, under their own names |
| plain, with attributes that are no slots | these, without those with a leading underscore |
| plain, with slots alone | its text |

A plain object counts as two for the depth.
-/

namespace Carryover

open Entries

/-- The attributes whose names have no leading underscore. -/
def publicAttrs (attrs : Entries String Value) : Entries String Value :=
  attrs.filter fun (name, _) => !name.startsWith "_"

namespace Classes

/-- Whether the objects of a class are plain: neither records nor models, with attributes that are
no slots. -/
def IsPlain (Γ : Classes) (cls : String) : Prop :=
  Γ.isModel (.declared cls) = false ∧ Γ.isRecord (.declared cls) = false ∧
    Γ.hasOpenAttrs (.declared cls) = true

/-- What is written of an entry of a mapping. -/
def dictEntry? (Γ : Classes) (plainObjects : Bool) (room : Nat) (e : Value × Value) :
    Option (String × Json) :=
  (Γ.keyText? plainObjects e.1).bind fun key =>
    (Γ.toJson? plainObjects room e.2).bind fun j => some (key, j)

/-- What is written of an attribute of a model: the field of its name, if there is one. -/
def modelEntry? (Γ : Classes) (plainObjects : Bool) (room : Nat) (cls : String)
    (e : String × Value) : Option (Option (String × Json)) :=
  match (Γ.storedFields (.declared cls)).find? fun f => f.name == e.1 with
  | some f => do
    let j ← Γ.toJson? plainObjects room e.2
    some (some (f.shownName, j))
  | none => some none

end Classes

variable {Γ : Classes} {plainObjects : Bool} {room : Nat} {cls : String}
  {attrs : Entries String Value}

/-- A mapping is written entry by entry. -/
theorem toJson?_dict (es : List (Value × Value)) :
    Γ.toJson? plainObjects (room + 1) (.dict es) =
      (es.mapM (Γ.dictEntry? plainObjects room)).map .object := by
  rw [Classes.toJson?, Option.map_eq_bind]
  rfl

/-- An object that is a number is written as one that is none. -/
theorem toJson?_number (mark : Nat) :
    Γ.toJson? plainObjects room (.number mark cls attrs) =
      Γ.toJson? plainObjects room (.object cls attrs) := by
  have hfield : Γ.fieldValue? (.number mark cls attrs) = Γ.fieldValue? (.object cls attrs) := rfl
  have htext : Γ.opaqueText (.number mark cls attrs) = Γ.opaqueText (.object cls attrs) := rfl
  cases room with
  | zero => rfl
  | succ room =>
    unfold Classes.toJson?
    rw [hfield, htext]

/-- An object of a model is written attribute by attribute. -/
theorem toJson?_modelObject (hmodel : Γ.isModel (.declared cls) = true) :
    Γ.toJson? plainObjects (room + 1) (.object cls attrs) =
      (attrs.filterMapM (Γ.modelEntry? plainObjects room cls)).map .object := by
  conv_lhs => unfold Classes.toJson?
  dsimp only
  rw [if_pos hmodel, Option.map_eq_bind]
  rfl

/-- An object of a record is written field by field. -/
theorem toJson?_recordObject (hmodel : Γ.isModel (.declared cls) = false)
    (hrecord : Γ.isRecord (.declared cls) = true) :
    Γ.toJson? plainObjects (room + 1) (.object cls attrs) =
      ((Γ.storedFields (.declared cls)).mapM fun f =>
        ((Γ.fieldValue? (.object cls attrs) f.name).bind (Γ.toJson? plainObjects room)).map
          (f.name, ·)).map .object := by
  conv_lhs => unfold Classes.toJson?
  dsimp only
  rw [if_neg (by simp [hmodel]), if_pos hrecord]
  simp only [Option.bind_eq_bind, Option.map_eq_bind, Option.bind_assoc]
  rfl

/-- A plain object has its public attributes written. -/
theorem toJson?_plainObject (hplain : Γ.IsPlain cls) :
    Γ.toJson? true (room + 2) (.object cls attrs) =
      ((publicAttrs (Γ.openAttrs cls attrs)).mapM fun e =>
        (Γ.toJson? true room e.2).map (e.1, ·)).map .object := by
  obtain ⟨hmodel, hrecord, hopen⟩ := hplain
  conv_lhs => unfold Classes.toJson?
  dsimp only
  rw [if_neg (by simp [hmodel]), if_neg (by simp [hrecord]), if_neg (by simp), if_pos hopen]
  simp only [Option.bind_eq_bind, Option.map_eq_bind]
  rfl

/-- An object without open attributes is written as the text that it shows. -/
theorem toJson?_slotObject (hmodel : Γ.isModel (.declared cls) = false)
    (hrecord : Γ.isRecord (.declared cls) = false)
    (hopen : Γ.hasOpenAttrs (.declared cls) = false) :
    Γ.toJson? true (room + 2) (.object cls attrs) =
      some (.text (Γ.opaqueText (.object cls attrs))) := by
  conv_lhs => unfold Classes.toJson?
  dsimp only
  rw [if_neg (by simp [hmodel]), if_neg (by simp [hrecord]), if_neg (by simp),
    if_neg (by simp [hopen])]

/-- There is no room for a plain object where there is room for one value alone. -/
theorem toJson?_one_of_not_known (hmodel : Γ.isModel (.declared cls) = false)
    (hrecord : Γ.isRecord (.declared cls) = false) :
    Γ.toJson? true 1 (.object cls attrs) = none := by
  conv_lhs => unfold Classes.toJson?
  dsimp only
  rw [if_neg (by simp [hmodel]), if_neg (by simp [hrecord]), if_neg (by simp)]

end Carryover
