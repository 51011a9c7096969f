import Carryover.Proofs.Json.Objects
import Carryover.Proofs.Json.RoundTrip
import Carryover.Proofs.Stored.Matching
import Carryover.Proofs.Stored.Survival
import Carryover.Proofs.Stored.Written

/-!
# The names that fields are written and read under

A record is written with its fields under their own names, and read with each field under its alias.
A model is written and read under the aliases, which may be one for writing and another one for
reading. So an object of types that are written and read alike is read back exactly if the fields of
the records and models in it are found (`decode_encode_iff_findsFields`).

| a field that is read under | read back if |
| --- | --- |
| the name it is written under | the value is |
| the name that another field is written under | the value of that field is read as its own |
| a name that no field is written under | it holds its default |

What is shown of a value is that it has a tree that it is written as, wherever it stands, and that
the type reads the tree as the value exactly if the fields are found (`ReadsFound`). One lemma for
each form says so if it holds of the parts.
-/

namespace Carryover

open Entries

/-- The name that a field is written under. -/
def Classes.writtenName (Γ : Classes) (name : String) (f : FieldDecl) : String :=
  if Γ.isModel (.declared name) then f.shownName else f.name

/-- The value of an object that is written under a name. -/
def Classes.writtenUnder? (Γ : Classes) (name : String) (attrs : Entries String Value)
    (written : String) : Option Value :=
  ((Γ.fields (.declared name)).find? fun f => Γ.writtenName name f == written).bind fun f =>
    get? attrs f.name

/-- Whether a value of a field is read where another field is written, or nothing is: the value
written there is read as it, or else it is the default. -/
def Classes.FoundElsewhere (Γ : Classes) (name : String) (attrs : Entries String Value)
    (f : FieldDecl) (v : Value) : Prop :=
  match Γ.writtenUnder? name attrs f.jsonName with
  | some w => ∃ j, Γ.json? w = some j ∧ f.hint.Reads Γ j v
  | none => ∃ w, f.default = some w ∧ v.Matches w

/-- Whether the fields of the objects in a value are found where they are read. -/
inductive Value.FindsFields (Γ : Classes) : Value → Prop
  | null : FindsFields Γ .null
  | primitive {v : Value} (hv : v.isPrimitive = true) : FindsFields Γ v
  | list {vs : List Value} (hvs : ∀ v ∈ vs, FindsFields Γ v) : FindsFields Γ (.row .list vs)
  | mapping {es : Entries String Value} (hes : ∀ e ∈ es, FindsFields Γ e.2) :
      FindsFields Γ (.mapping es)
  | object {name : String} {attrs : Entries String Value}
      (hown : ∀ f ∈ Γ.fields (.declared name), Γ.writtenName name f = f.jsonName →
        ∀ v, get? attrs f.name = some v → FindsFields Γ v)
      (hother : ∀ f ∈ Γ.fields (.declared name), Γ.writtenName name f ≠ f.jsonName →
        ∀ v, get? attrs f.name = some v → Γ.FoundElsewhere name attrs f v) :
      FindsFields Γ (.object name attrs)

/-- Whether a declared class is a record or a model whose fields have types of the forms. The fields
of a model are written under names that differ. No property stands in the place of an attribute of a
record, which the constructor could not set. -/
structure Classes.HasAliasedForm (Γ : Classes) (declared : String → Prop) (name : String) : Prop
    where
  hasHints : Γ.HasHints declared name
  shownNames : Γ.isModel (.declared name) = true →
    ((Γ.fields (.declared name)).map FieldDecl.shownName).Nodup
  unhidden : Γ.isModel (.declared name) = false →
    ∀ f ∈ Γ.fields (.declared name), ∀ o, Γ.holding? (.declared name) f.name ≠ some (.property o)

variable {Γ : Classes} {declared : String → Prop}

/-- A model writes a field under its alias. -/
theorem writtenName_of_isModel {name : String} (hmodel : Γ.isModel (.declared name) = true) :
    Γ.writtenName name = FieldDecl.shownName :=
  funext fun _ => if_pos hmodel

/-- A record writes a field under its name. -/
theorem writtenName_of_not_isModel {name : String} (hmodel : Γ.isModel (.declared name) = false) :
    Γ.writtenName name = FieldDecl.name :=
  funext fun _ => if_neg (by simp [hmodel])

/-! ### What is written of objects -/

/-- An attribute in whose place no property stands is the one that the object holds. -/
theorem fieldValue?_of_get? {name field : String} {attrs : Entries String Value} {w : Value}
    (hproperty : ∀ o, Γ.holding? (.declared name) field ≠ some (.property o))
    (hw : get? attrs field = some w) : Γ.fieldValue? (.object name attrs) field = some w := by
  unfold Classes.fieldValue? Classes.declaredAttribute?
  dsimp only
  split
  · rename_i h
    split at h <;> simp_all
  · rename_i h
    split at h <;> simp_all

/-- A record is written with its fields in order, under their own names. -/
theorem toJson?_recordFields {room : Nat} {name : String}
    (hmodel : Γ.isModel (.declared name) = false) (hrecord : Γ.isRecord (.declared name) = true)
    {attrs : Entries String Value} {w : FieldDecl → Value} {g : FieldDecl → Json}
    (hunhidden : ∀ f ∈ Γ.storedFields (.declared name),
      ∀ o, Γ.holding? (.declared name) f.name ≠ some (.property o))
    (hw : ∀ f ∈ Γ.storedFields (.declared name), get? attrs f.name = some (w f))
    (hg : ∀ f ∈ Γ.storedFields (.declared name), Γ.toJson? true room (w f) = some (g f)) :
    Γ.toJson? true (room + 1) (.object name attrs) =
      some (.object ((Γ.storedFields (.declared name)).map fun f => (f.name, g f))) := by
  rw [toJson?_recordObject hmodel hrecord, mapM_eq_some (g := fun f => (f.name, g f)) fun f hf => by
    rw [fieldValue?_of_get? (hunhidden f hf) (hw f hf), Option.bind_some, hg f hf]
    rfl]
  rfl

/-- The fields that the attributes of an object are for, in the order of the attributes. -/
def Classes.heldFields (Γ : Classes) (name : String) (attrs : Entries String Value) :
    List FieldDecl :=
  attrs.filterMap fun e => (Γ.fields (.declared name)).find? fun f => f.name == e.1

/-- A field is found under its name. -/
theorem find?_field {c : ClassName} {f : FieldDecl} (hf : f ∈ Γ.fields c) :
    (Γ.fields c).find? (fun g => g.name == f.name) = some f := by
  cases hfind : (Γ.fields c).find? fun g => g.name == f.name with
  | none => simpa using List.find?_eq_none.mp hfind f hf
  | some g =>
    have hname : g.name = f.name :=
      eq_of_beq (List.find?_some (p := fun g : FieldDecl => g.name == f.name) hfind)
    exact congrArg some (eq_of_name_eq (List.mem_of_find?_eq_some hfind) hf hname)

/-- An object whose attributes are those of its fields holds each field once. -/
theorem heldFields_perm {name : String} {attrs : Entries String Value}
    (hnames : (keys attrs).Perm ((Γ.fields (.declared name)).map FieldDecl.name)) :
    (Γ.heldFields name attrs).Perm (Γ.fields (.declared name)) := by
  have hfield (e : String × Value) (he : e ∈ attrs) : ∃ f ∈ Γ.fields (.declared name),
      f.name = e.1 ∧ (Γ.fields (.declared name)).find? (fun g => g.name == e.1) = some f := by
    obtain ⟨f, hf, hname⟩ := List.mem_map.mp (hnames.mem_iff.mp (List.mem_map_of_mem he))
    exact ⟨f, hf, hname, hname ▸ find?_field hf⟩
  have hheld : (Γ.heldFields name attrs).map FieldDecl.name = keys attrs := by
    rw [Classes.heldFields, List.map_filterMap, keys, ← List.filterMap_eq_map]
    refine List.filterMap_congr fun e he => ?_
    obtain ⟨f, -, hname, hfind⟩ := hfield e he
    simp [hfind, hname]
  refine (List.perm_ext_iff_of_nodup (List.Nodup.of_map FieldDecl.name ?_) ?_).mpr fun f => ?_
  · rw [hheld, hnames.nodup_iff]
    exact nodup_names_fields Γ _
  · exact List.Nodup.of_map FieldDecl.name (nodup_names_fields Γ _)
  · rw [Classes.heldFields, List.mem_filterMap]
    constructor
    · rintro ⟨e, -, hfind⟩
      exact List.mem_of_find?_eq_some hfind
    · intro hf
      obtain ⟨e, he, hname⟩ := List.mem_map.mp (hnames.mem_iff.mpr (List.mem_map_of_mem hf))
      exact ⟨e, he, hname ▸ find?_field hf⟩

/-- What is made of each item is made of all, those left out that nothing is made of. -/
theorem filterMapM_eq_some {α β : Type} {f : α → Option (Option β)} {g : α → Option β}
    {xs : List α} (h : ∀ x ∈ xs, f x = some (g x)) : xs.filterMapM f = some (xs.filterMap g) := by
  induction xs with
  | nil => rfl
  | cons x xs ih =>
    obtain ⟨hx, hxs⟩ := List.forall_mem_cons.mp h
    rw [List.filterMapM_cons, hx, ih hxs, List.filterMap_cons]
    cases g x <;> rfl

/-- A model is written with its fields in the order of its attributes. -/
theorem toJson?_modelFields {room : Nat} {name : String}
    (hmodel : Γ.isModel (.declared name) = true)
    (hstored : Γ.storedFields (.declared name) = Γ.fields (.declared name))
    {attrs : Entries String Value} {w : FieldDecl → Value} {g : FieldDecl → Json}
    (hnames : (keys attrs).Perm ((Γ.fields (.declared name)).map FieldDecl.name))
    (hw : ∀ f ∈ Γ.fields (.declared name), get? attrs f.name = some (w f))
    (hg : ∀ f ∈ Γ.fields (.declared name), Γ.toJson? true room (w f) = some (g f)) :
    Γ.toJson? true (room + 1) (.object name attrs) =
      some (.object ((Γ.heldFields name attrs).map fun f => (f.shownName, g f))) := by
  have hkeys : (keys attrs).Nodup := hnames.nodup_iff.mpr (nodup_names_fields Γ _)
  rw [toJson?_modelObject hmodel, filterMapM_eq_some (g := fun e =>
    ((Γ.fields (.declared name)).find? fun f => f.name == e.1).map fun f => (f.shownName, g f))]
  · rw [Classes.heldFields, List.map_filterMap]
    rfl
  · intro e he
    obtain ⟨f, hf, hname⟩ := List.mem_map.mp (hnames.mem_iff.mp (List.mem_map_of_mem he))
    have hvalue : w f = e.2 := by
      have hget := get?_of_mem hkeys he
      rw [← hname, hw f hf] at hget
      exact Option.some.inj hget
    have hfind := find?_field hf
    rw [hname] at hfind
    simp only [Classes.modelEntry?, hstored, hfind, ← hvalue, hg f hf]
    rfl

section Objects

variable {name : String} {attrs : Entries String Value} {w : FieldDecl → Value}
  {g : FieldDecl → Json}

/-- The names that the fields of an object are written under differ. -/
theorem nodup_writtenNames (hform : Γ.HasAliasedForm declared name) :
    ((Γ.fields (.declared name)).map (Γ.writtenName name)).Nodup := by
  cases hmodel : Γ.isModel (.declared name) with
  | true =>
    rw [writtenName_of_isModel hmodel]
    exact hform.shownNames hmodel
  | false =>
    rw [writtenName_of_not_isModel hmodel]
    exact nodup_names_fields Γ _

/-- **An object is written with its fields**, those of a model in the order of its attributes. -/
theorem exists_written (hform : Γ.HasAliasedForm declared name)
    (hnames : (keys attrs).Perm ((Γ.fields (.declared name)).map FieldDecl.name))
    (hw : ∀ f ∈ Γ.fields (.declared name), get? attrs f.name = some (w f)) :
    ∃ order : List FieldDecl, order.Perm (Γ.fields (.declared name)) ∧ ∀ room : Nat,
      (∀ f ∈ Γ.fields (.declared name), Γ.toJson? true room (w f) = some (g f)) →
        Γ.toJson? true (room + 1) (.object name attrs) =
          some (.object (order.map fun f => (Γ.writtenName name f, g f))) := by
  have hstored := storedFields_of_hasHints hform.hasHints
  cases hmodel : Γ.isModel (.declared name) with
  | true =>
    rw [writtenName_of_isModel hmodel]
    exact ⟨_, heldFields_perm hnames, fun room hg =>
      toJson?_modelFields hmodel hstored hnames hw hg⟩
  | false =>
    have hrecord : Γ.isRecord (.declared name) = true := by
      simpa [hmodel] using hform.hasHints.hasFields
    rw [writtenName_of_not_isModel hmodel, ← hstored]
    refine ⟨_, .refl _, fun room hg => ?_⟩
    exact toJson?_recordFields hmodel hrecord (by rw [hstored]; exact hform.unhidden hmodel)
      (by rwa [hstored]) hg

end Objects

/-! ### What is read of them -/

/-- Whether a tree is what a value that stands inside of `depth` others is written as, and a type
reads it as the value exactly if the fields in the value are found. -/
structure ReadsFound (Γ : Classes) (depth : Nat) (h : Hint) (v : Value) (j : Json) : Prop where
  written : ∀ room : Nat, Json.depthLimit < depth + room → Γ.toJson? true room v = some j
  readable : j.Readable depth
  absent : j = .null → v = .null
  reads : h.Reads Γ j v ↔ v.FindsFields Γ

/-- A whole number that is read back from its text has no more digits than are read. -/
theorem length_digits_of_parse? {i : Int} (hi : Json.parse? (Json.int i).render = some (.int i)) :
    (Nat.toDigits 10 i.natAbs).length ≤ 4300 := by
  have hlegible := (Json.isSome_parse?_render (.int i)).mp (by simp [hi])
  exact of_decide_eq_true hlegible.1

/-- A scalar that its class reads as it is is read back. -/
theorem readsFound_builtin {depth : Nat} {b : Builtin} {v : Value} {j : Json}
    (hv : v.isPrimitive = true) (hwritten : ∀ room, Γ.toJson? true (room + 1) v = some j)
    (hreadable : j.Readable depth) (hnull : j ≠ .null)
    (hfits : Json.fitBuiltin Γ b j = .ok (.of v .exact)) :
    ReadsFound Γ depth (.builtin b) v j where
  written room hroom := by
    obtain ⟨inner, rfl, -⟩ := Json.exists_room hreadable.depth_le hroom
    exact hwritten inner
  readable := hreadable
  absent h := absurd h hnull
  reads := iff_of_true ⟨.of v .exact, by rw [Json.fit, hfits], .refl v⟩ (.primitive hv)

/-- A list finds its fields if its items do. -/
theorem findsFields_list_iff {vs : List Value} :
    (Value.row .list vs).FindsFields Γ ↔ ∀ v ∈ vs, v.FindsFields Γ := by
  constructor
  · intro h
    generalize hv : Value.row .list vs = v at h
    cases h with
    | list hvs =>
      obtain ⟨-, rfl⟩ := Value.row.inj hv
      exact hvs
    | primitive hp =>
      subst hv
      cases hp
    | null | mapping | object => cases hv
  · exact .list

/-- A mapping finds its fields if its values do. -/
theorem findsFields_mapping_iff {es : Entries String Value} :
    (Value.mapping es).FindsFields Γ ↔ ∀ e ∈ es, e.2.FindsFields Γ := by
  constructor
  · intro h
    generalize hv : Value.mapping es = v at h
    cases h with
    | mapping hes =>
      obtain rfl := mapping_injective hv
      exact hes
    | primitive hp =>
      subst hv
      cases hp
    | null | list | object => cases hv
  · exact .mapping

/-- An object finds its fields if each one is read under the name that it is written under and finds
its own, or what is read in its place stands elsewhere and is equal. -/
theorem findsFields_object_iff {name : String} {attrs : Entries String Value} :
    (Value.object name attrs).FindsFields Γ ↔ ∀ f ∈ Γ.fields (.declared name),
      (Γ.writtenName name f = f.jsonName →
        ∀ v, get? attrs f.name = some v → v.FindsFields Γ) ∧
      (Γ.writtenName name f ≠ f.jsonName →
        ∀ v, get? attrs f.name = some v → Γ.FoundElsewhere name attrs f v) := by
  constructor
  · intro h
    generalize hv : Value.object name attrs = v at h
    cases h with
    | object hown hother =>
      obtain ⟨rfl, rfl⟩ := Value.object.inj hv
      exact fun f hf => ⟨hown f hf, hother f hf⟩
    | primitive hp =>
      subst hv
      cases hp
    | null | list | mapping => cases hv
  · intro h
    exact .object (fun f hf => (h f hf).1) fun f hf => (h f hf).2

/-- An object of which a field is read where nothing is written, and has no default, does not come
back. -/
theorem not_findsFields {name : String} {attrs : Entries String Value} {f : FieldDecl}
    (hf : f ∈ Γ.fields (.declared name)) (hheld : f.name ∈ keys attrs)
    (hnothing : ∀ g ∈ Γ.fields (.declared name), Γ.writtenName name g ≠ f.jsonName)
    (hdefault : f.default = none) : ¬ (Value.object name attrs).FindsFields Γ := by
  intro h
  obtain ⟨v, hv⟩ := mem_keys_iff.mp hheld
  have hfound := (findsFields_object_iff.mp h f hf).2 (hnothing f hf) v hv
  have hfind : (Γ.fields (.declared name)).find? (fun g => Γ.writtenName name g == f.jsonName) =
      none := List.find?_eq_none.mpr fun g hg => by simpa using hnothing g hg
  rw [Classes.FoundElsewhere, Classes.writtenUnder?, hfind, Option.bind_none, hdefault] at hfound
  obtain ⟨w, hw, -⟩ := hfound
  cases hw

/-- A list is read back if its items are. -/
theorem readsFound_list {depth : Nat} (hdepth : depth ≤ Json.depthLimit) (spelling : Spelling)
    {item : Hint} {vs : List Value} (h : ∀ v ∈ vs, ∃ j, ReadsFound Γ (depth + 1) item v j) :
    ∃ j, ReadsFound Γ depth (.row .list spelling item) (.row .list vs) j := by
  choose! g hg using h
  refine ⟨.list (vs.map g), ?written, ?readable, by simp, ?reads⟩
  case written =>
    intro room hroom
    obtain ⟨inner, rfl, hinner⟩ := Json.exists_room hdepth hroom
    exact toJson?_list fun v hv => (hg v hv).written inner hinner
  case readable =>
    exact .list hdepth (List.forall_mem_map.mpr fun v hv => (hg v hv).readable)
  case reads =>
    rw [reads_list_iff, findsFields_list_iff]
    exact forall₂_congr fun v hv => (hg v hv).reads

/-- A mapping is read back if its values are. -/
theorem readsFound_mapping {depth : Nat} (hdepth : depth ≤ Json.depthLimit) (spelling : Spelling)
    {value : Hint} {es : Entries String Value} (hkeys : (keys es).Nodup)
    (h : ∀ e ∈ es, ∃ j, ReadsFound Γ (depth + 1) value e.2 j) :
    ∃ j, ReadsFound Γ depth (.dict spelling (.builtin .str) value) (.mapping es) j := by
  choose! g hg using h
  refine ⟨.object (es.map fun e => (e.1, g e)), ?written, ?readable, by simp, ?reads⟩
  case written =>
    intro room hroom
    obtain ⟨inner, rfl, hinner⟩ := Json.exists_room hdepth hroom
    rw [Value.mapping, toJson?_texts, mapM_eq_some (g := fun e => (e.1, g e)) fun e he => by
      rw [(hg e he).written inner hinner]
      rfl]
    rfl
  case readable =>
    exact .object hdepth (by simpa [keys, Function.comp_def] using hkeys)
      (List.forall_mem_map.mpr fun e he => (hg e he).readable)
  case reads =>
    rw [reads_mapping_iff hkeys, findsFields_mapping_iff]
    exact forall₂_congr fun e he => (hg e he).reads

/-- The absent value, and a value that is read back, are read back as a value that may be
absent. -/
theorem readsFound_optional {depth : Nat} (hdepth : depth ≤ Json.depthLimit) {a : Hint}
    {hs : List Hint} (hhs : hs = [a, .builtin .noneType] ∨ hs = [.builtin .noneType, a])
    {v : Value} (h : v = .null ∨ ∃ j, ReadsFound Γ depth a v j) :
    ∃ j, ReadsFound Γ depth (.union hs) v j := by
  by_cases hv : v = .null
  · subst hv
    refine ⟨.null, fun room hroom => ?_, .null hdepth, fun _ => rfl,
      iff_of_true (reads_optional_null hhs) .null⟩
    obtain ⟨inner, rfl, -⟩ := Json.exists_room hdepth hroom
    rfl
  · obtain ⟨j, hread⟩ := h.resolve_left hv
    have hj : j ≠ .null := fun h => hv (hread.absent h)
    exact ⟨j, hread.written, hread.readable, hread.absent,
      (reads_optional_iff hhs hj).trans hread.reads⟩

/-- A type that reads trees as another one does reads back what the other one does. -/
theorem readsFound_of_fit_eq {depth : Nat} {h h' : Hint} {v : Value}
    (hread : ∃ j, ReadsFound Γ depth h v j) (hfit : ∀ j, Json.fit Γ h' j = Json.fit Γ h j) :
    ∃ j, ReadsFound Γ depth h' v j := by
  obtain ⟨j, hread⟩ := hread
  refine ⟨j, hread.written, hread.readable, hread.absent, ?_⟩
  rw [← hread.reads, Hint.Reads, Hint.Reads, hfit]

section Objects

variable {name : String} {attrs : Entries String Value} {w : FieldDecl → Value}
  {g : FieldDecl → Json} {order : List FieldDecl}

/-- What stands under the name that a field is written under is its tree. -/
theorem get?_written (hform : Γ.HasAliasedForm declared name)
    (horder : order.Perm (Γ.fields (.declared name))) {f : FieldDecl}
    (hf : f ∈ Γ.fields (.declared name)) :
    get? (order.map fun f => (Γ.writtenName name f, g f)) (Γ.writtenName name f) = some (g f) := by
  have hkeys : (keys (order.map fun f => (Γ.writtenName name f, g f))).Nodup := by
    have hnodup := (horder.map (Γ.writtenName name)).nodup_iff.mpr (nodup_writtenNames hform)
    simpa [keys, Function.comp_def] using hnodup
  exact get?_of_mem hkeys
    (List.mem_map_of_mem (f := fun f => (Γ.writtenName name f, g f)) (horder.mem_iff.mpr hf))

/-- A field that is read where it is written is fitted by its own tree. -/
theorem fitField_own (hform : Γ.HasAliasedForm declared name)
    (horder : order.Perm (Γ.fields (.declared name))) {f : FieldDecl}
    (hf : f ∈ Γ.fields (.declared name)) (hown : Γ.writtenName name f = f.jsonName) :
    Json.fitField Γ (order.map fun f => (Γ.writtenName name f, g f)) f =
      Json.fit Γ f.hint (g f) := by
  rw [Json.fitField, ← hown, get?_written hform horder hf]

/-- A field that is read elsewhere is found there, or is not. -/
theorem fitField_elsewhere (hform : Γ.HasAliasedForm declared name)
    (horder : order.Perm (Γ.fields (.declared name)))
    (hw : ∀ f ∈ Γ.fields (.declared name), get? attrs f.name = some (w f))
    (hg : ∀ f ∈ Γ.fields (.declared name), Γ.json? (w f) = some (g f)) (f : FieldDecl)
    {v : Value} :
    (∃ a, Json.fitField Γ (order.map fun f => (Γ.writtenName name f, g f)) f = .ok a ∧
      v.Matches a.value) ↔ Γ.FoundElsewhere name attrs f v := by
  rw [Json.fitField, Classes.FoundElsewhere, Classes.writtenUnder?]
  cases hfind : (Γ.fields (.declared name)).find? fun g => Γ.writtenName name g == f.jsonName with
  | none =>
    have hnone : get? (order.map fun f => (Γ.writtenName name f, g f)) f.jsonName = none := by
      rw [get?_eq_none_iff]
      intro hkey
      obtain ⟨e, he, hname⟩ := List.mem_map.mp hkey
      obtain ⟨f', hf', rfl⟩ := List.mem_map.mp he
      exact List.find?_eq_none.mp hfind f' (horder.mem_iff.mp hf') (by simpa using hname)
    rw [hnone, Option.bind_none]
    cases f.default with
    | none => simp
    | some w => simp [Fit.of]
  | some f' =>
    have hf' : f' ∈ Γ.fields (.declared name) := List.mem_of_find?_eq_some hfind
    have hname : Γ.writtenName name f' = f.jsonName :=
      eq_of_beq (List.find?_some (p := fun g => Γ.writtenName name g == f.jsonName) hfind)
    rw [← hname, get?_written hform horder hf', Option.bind_some, hw f' hf']
    simp only [hg f' hf', Option.some.injEq, exists_eq_left']
    rfl

/-- An object is read back if its fields are. -/
theorem readsFound_object {depth : Nat} (hdepth : depth ≤ Json.depthLimit)
    (hform : Γ.HasAliasedForm declared name)
    (hnames : (keys attrs).Perm ((Γ.fields (.declared name)).map FieldDecl.name))
    (h : ∀ f ∈ Γ.fields (.declared name), ∃ w, get? attrs f.name = some w ∧
      ∃ j, ReadsFound Γ (depth + 1) f.hint w j) :
    ∃ j, ReadsFound Γ depth (.cls (.declared name)) (.object name attrs) j := by
  choose! w hw g hg using h
  obtain ⟨order, horder, hwritten⟩ := exists_written (g := g) hform hnames hw
  refine ⟨.object (order.map fun f => (Γ.writtenName name f, g f)), ?written, ?readable, by simp,
    ?reads⟩
  case written =>
    intro room hroom
    obtain ⟨inner, rfl, hinner⟩ := Json.exists_room hdepth hroom
    exact hwritten inner fun f hf => (hg f hf).written inner hinner
  case readable =>
    have hkeys := (horder.map (Γ.writtenName name)).nodup_iff.mpr (nodup_writtenNames hform)
    exact .object hdepth (by simpa [keys, Function.comp_def] using hkeys)
      (List.forall_mem_map.mpr fun f hf => (hg f (horder.mem_iff.mp hf)).readable)
  case reads =>
    obtain ⟨d, hd, hkind⟩ := hform.hasHints.found
    have hjson (f) (hf : f ∈ Γ.fields (.declared name)) : Γ.json? (w f) = some (g f) :=
      (hg f hf).written _ (by rw [Json.depthLimit, Classes.writingRoom]; omega)
    rw [reads_object_iff hd hkind (storedFields_of_hasHints hform.hasHints) hnames,
      findsFields_object_iff]
    -- field by field: read where it is written, or elsewhere
    refine forall₂_congr fun f hf => ?_
    simp only [hw f hf, Option.some.injEq, forall_eq']
    by_cases hown : Γ.writtenName name f = f.jsonName
    · simp only [hown, fitField_own hform horder hf hown, ← (hg f hf).reads, Hint.Reads, ne_eq,
        not_true_eq_false, false_implies, and_true, true_implies]
    · simp only [hown, fitField_elsewhere hform horder hw hjson f, ne_eq, not_false_eq_true,
        false_implies, true_and, true_implies]

end Objects

/-! ### Types of the forms -/

/-- **A value that inhabits a type of the forms has a tree that it is written as**, and the type
reads the tree as the value exactly if the fields of the objects in it are found. -/
theorem readsFound_of_inhabits (hΓ : ∀ name, declared name → Γ.HasAliasedForm declared name)
    {h : Hint} {v : Value} (hv : v.Inhabits Γ h) (hh : h.IsForm declared) {depth : Nat}
    (hlegible : v.Legible depth) : ∃ j, ReadsFound Γ depth h v j := by
  -- on the value and not on the type, since a class may have fields of its own type
  induction hv generalizing depth with
  | null => cases hh
  | union hmem hv ih =>
    cases hh with
    | optional ha hhs =>
      obtain rfl | rfl := (mem_optional_iff hhs _).mp hmem
      · exact readsFound_optional hlegible.depth_le hhs (.inr (ih ha hlegible))
      · cases hv
        exact readsFound_optional hlegible.depth_le hhs (.inl rfl)
  | annotated notes hv ih =>
    cases hh with
    | annotated _ hh => exact readsFound_of_fit_eq (ih hh hlegible) fun j => by rw [Json.fit]
  | written text hv ih =>
    cases hh with
    | written _ hh => exact readsFound_of_fit_eq (ih hh hlegible) fun j => by rw [Json.fit]
  | bool b =>
    exact ⟨_, readsFound_builtin rfl (fun _ => rfl) (.bool hlegible.depth_le) (by simp) rfl⟩
  | int i =>
    cases hlegible with
    | int hdepth hi =>
      exact ⟨_, readsFound_builtin rfl (fun _ => rfl) (.int hdepth (length_digits_of_parse? hi))
        (by simp) rfl⟩
  | float x =>
    exact ⟨_, readsFound_builtin rfl (fun _ => rfl) (.float hlegible.depth_le) (by simp) rfl⟩
  | str s =>
    exact ⟨_, readsFound_builtin rfl (fun _ => rfl) (.text hlegible.depth_le) (by simp) rfl⟩
  | list spelling _ ih =>
    cases hh with
    | list _ hitem =>
      cases hlegible with
      | row hdepth hvs =>
        exact readsFound_list hdepth spelling fun v hv => ih v hv hitem (hvs v hv)
  | dict spelling hkeys _ ih =>
    cases hh with
    | dict _ hvalue =>
      rw [Value.mapping] at hlegible
      cases hlegible with
      | dict hdepth hes =>
        exact readsFound_mapping hdepth spelling hkeys fun e he =>
          ih e he hvalue (List.forall_mem_map.mp hes e he)
  | @object name attrs hnames _ ih =>
    cases hh with
    | cls hname =>
      have hform := hΓ name hname
      cases hlegible with
      | object hdepth hattrs =>
        refine readsFound_object hdepth hform hnames fun f hf => ?_
        obtain ⟨w, hw⟩ := mem_keys_iff.mp (hnames.mem_iff.mpr (List.mem_map_of_mem hf))
        exact ⟨w, hw, ih f hf w hw (hform.hasHints.hints f hf) (hattrs _ (mem_of_get? hw))⟩

/-! ### Stored objects -/

section Stored

variable {name : String} {attrs : Entries String Value} {j : Json}

/-- An object that is read back is stored as its JSON text. -/
theorem encode_of_readsFound
    (hread : ReadsFound Γ 0 (.cls (.declared name)) (.object name attrs) j) :
    Γ.encode (.object name attrs) = .ok (.jsonText j.render) := by
  rw [encode_of_not_isPrimitive (by simp) rfl, Classes.jsonTextOf, Classes.json?,
    hread.written _ (by decide)]
  rfl

/-- What is stored of an object is read as what its tree fits as. -/
theorem fst_perform_decode_readsFound {s : Session}
    (hΓ : ∀ name, declared name → s.classes.HasAliasedForm declared name) (hname : declared name)
    (hread : ReadsFound s.classes 0 (.cls (.declared name)) (.object name attrs) j) (key : String) :
    (∃ w, (perform (decode key (.jsonText j.render) (.cls (.declared name))) s).1 = .ok w ∧
      (Value.object name attrs).Matches w) ↔ (Value.object name attrs).FindsFields s.classes := by
  have hclass : (Hint.cls (.declared name)).unreadable? s.classes = none :=
    unreadable?_of_hasHints (fun name hname => (hΓ name hname).hasHints) (.cls hname)
  have hdecode (w : Value) :
      (perform (decode key (.jsonText j.render) (.cls (.declared name))) s).1 = .ok w ↔
        ∃ f, Json.fit s.classes (.cls (.declared name)) j = .ok f ∧ f.value = w := by
    rw [fst_perform_decode_eq_ok (by simp) (by simp) (by simp) (isAlready_declared rfl name)]
    simp [Classes.storedText, Value.asText?, readClass_eq_ok hclass,
      Json.parse?_render hread.readable]
  rw [← hread.reads]
  constructor
  · rintro ⟨w, hw, hmatches⟩
    obtain ⟨f, hf, rfl⟩ := (hdecode w).mp hw
    exact ⟨f, hf, hmatches⟩
  · rintro ⟨f, hf, hmatches⟩
    exact ⟨f.value, (hdecode _).mpr ⟨f, hf, rfl⟩, hmatches⟩

/-- **An object is read back as its class exactly if its fields are found**, and those of the
objects in it: it comes back but for the order of the attributes. -/
theorem decode_encode_iff_findsFields
    (hΓ : ∀ name, declared name → Γ.HasAliasedForm declared name) (hname : declared name)
    (hv : (Value.object name attrs).Inhabits Γ (.cls (.declared name)))
    (hlegible : (Value.object name attrs).Legible 0) :
    ∃ stored, Γ.encode (.object name attrs) = .ok stored ∧
      ∀ (key : String) (s : Session), s.classes = Γ →
        ((∃ w, (perform (decode key stored (.cls (.declared name))) s).1 = .ok w ∧
          (Value.object name attrs).Matches w) ↔ (Value.object name attrs).FindsFields Γ) := by
  obtain ⟨j, hread⟩ := readsFound_of_inhabits hΓ hv (.cls hname) hlegible
  refine ⟨_, encode_of_readsFound hread, ?_⟩
  rintro key s rfl
  exact fst_perform_decode_readsFound hΓ hname hread key

/-- Whether an object comes back as its class, but for the order of the attributes. -/
def ComesBack (Γ : Classes) (name : String) (attrs : Entries String Value) : Prop :=
  ∃ stored, Γ.encode (.object name attrs) = .ok stored ∧
    ∀ (key : String) (s : Session), s.classes = Γ →
      ∃ w, (perform (decode key stored (.cls (.declared name))) s).1 = .ok w ∧
        (Value.object name attrs).Matches w

/-- An object whose fields are not found does not come back. -/
theorem not_comesBack (hΓ : ∀ name, declared name → Γ.HasAliasedForm declared name)
    (hname : declared name) (hv : (Value.object name attrs).Inhabits Γ (.cls (.declared name)))
    (hlegible : (Value.object name attrs).Legible 0)
    (hnot : ¬ (Value.object name attrs).FindsFields Γ) : ¬ ComesBack Γ name attrs := by
  rintro ⟨stored, hstored, hback⟩
  obtain ⟨j, hread⟩ := readsFound_of_inhabits hΓ hv (.cls hname) hlegible
  obtain rfl := Except.ok.inj ((encode_of_readsFound hread).symm.trans hstored)
  exact hnot ((fst_perform_decode_readsFound (s := .start Γ) hΓ hname hread "k").mp
    (hback "k" (.start Γ) rfl))

end Stored

/-! ### Bills -/

/-- Bills: a record of a number, which has an alias, and the lines. -/
def billDecl : ClassDecl where
  name := "Bill"
  kind := .record
  annotations := [("number", .annotated (.builtin .int) [.alias "n"]),
    ("lines", .row .list .builtin (.builtin .str))]

def bills : Classes :=
  { decls := [billDecl] }

theorem fields_bill : bills.fields (.declared "Bill") =
    [⟨"number", .annotated (.builtin .int) [.alias "n"], none, false⟩,
      ⟨"lines", .row .list .builtin (.builtin .str), none, false⟩] := rfl

theorem hasAliasedForm_bill : ∀ name, name = "Bill" → bills.HasAliasedForm (· = "Bill") name := by
  rintro name rfl
  refine ⟨⟨⟨billDecl, rfl, by simp [billDecl]⟩, .inl rfl, ?_⟩, nofun, fun _ => ?_⟩
  · simp only [fields_bill, List.forall_mem_cons]
    exact ⟨.annotated _ .int, .list _ .str, List.forall_mem_nil _⟩
  · simp only [fields_bill, List.forall_mem_cons]
    exact ⟨nofun, nofun, List.forall_mem_nil _⟩

/-- The attributes of a bill. -/
def billed : Entries String Value :=
  [("number", .int 7), ("lines", .row .list [.text "A-1"])]

theorem inhabits_bill : (Value.object "Bill" billed).Inhabits bills (.cls (.declared "Bill")) := by
  refine .object (by rw [fields_bill]; decide) ?_
  simp only [fields_bill, List.forall_mem_cons]
  refine ⟨?_, ?_, List.forall_mem_nil _⟩
  · rintro w ⟨⟩
    exact .annotated _ (.int 7)
  · rintro w ⟨⟩
    exact .list _ (List.forall_mem_singleton.mpr (.str "A-1"))

/-- A whole number of no more than 4300 digits is within the limits of the reader. -/
theorem legible_int {depth : Nat} {i : Int} (hdepth : depth ≤ Json.depthLimit)
    (hi : (Nat.toDigits 10 i.natAbs).length ≤ 4300) : (Value.int i).Legible depth :=
  .int hdepth (Json.parse?_render (.int (Nat.zero_le _) hi))

theorem legible_bill : (Value.object "Bill" billed).Legible 0 := by
  refine .object (by decide) ?_
  simp only [billed, List.forall_mem_cons]
  exact ⟨legible_int (by decide) (by decide),
    .row (by decide) (List.forall_mem_singleton.mpr (.text (by decide) _)), List.forall_mem_nil _⟩

/-- A bill comes back exactly if its number is found. -/
theorem decode_encode_iff_findsFields_bill :
    ∃ stored, bills.encode (.object "Bill" billed) = .ok stored ∧
      ∀ (key : String) (s : Session), s.classes = bills →
        ((∃ w, (perform (decode key stored (.cls (.declared "Bill"))) s).1 = .ok w ∧
          (Value.object "Bill" billed).Matches w) ↔
            (Value.object "Bill" billed).FindsFields bills) :=
  decode_encode_iff_findsFields hasAliasedForm_bill rfl inhabits_bill legible_bill

/-- Not every record with distinct names for its fields comes back: a bill does not. -/
theorem not_decode_encode_aliased :
    ¬ ∀ (Γ : Classes) (declared : String → Prop) (name : String) (attrs : Entries String Value),
      (∀ name, declared name → Γ.HasAliasedForm declared name ∧
        Γ.isModel (.declared name) = false ∧
          ((Γ.fields (.declared name)).map FieldDecl.jsonName).Nodup) →
        declared name → (Value.object name attrs).Inhabits Γ (.cls (.declared name)) →
          (Value.object name attrs).Legible 0 → ComesBack Γ name attrs := by
  intro h
  have hback := h bills (· = "Bill") "Bill" billed
    (fun name hname => ⟨hasAliasedForm_bill name hname, by subst hname; rfl, by
      subst hname
      rw [fields_bill]
      decide⟩)
    rfl inhabits_bill legible_bill
  refine not_comesBack hasAliasedForm_bill rfl inhabits_bill legible_bill ?_ hback
  refine not_findsFields (f := ⟨"number", .annotated (.builtin .int) [.alias "n"], none, false⟩)
    ?_ ?_ ?_ rfl
  · simp [fields_bill]
  · decide
  · simp only [fields_bill, List.forall_mem_cons]
    exact ⟨by decide, by decide, List.forall_mem_nil _⟩

end Carryover
