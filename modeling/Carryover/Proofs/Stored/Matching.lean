import Carryover.Proofs.Json.Composed
import Carryover.Proofs.Stored.Forms
import Mathlib.Data.List.Forall2

/-!
# Trees that are read as values

A type reads a tree as a value if the tree fits the type as a value that matches it: the same one
but for the order of the attributes of objects. A composed type does so part by part.

| type | tree | read as the value if |
| --- | --- | --- |
| list | list | each item is (`reads_list_iff`) |
| mapping from texts | object | the tree under each key is (`reads_mapping_iff`) |
| value that may be absent | any but `null` | the type of the value does so (`reads_optional_iff`) |
| record, model | object | each field is fitted as the attribute (`reads_object_iff`) |
-/

namespace Carryover

open Entries

/-- Whether a type reads a tree as a value. -/
def Hint.Reads (Γ : Classes) (h : Hint) (j : Json) (v : Value) : Prop :=
  ∃ f, Json.fit Γ h j = .ok f ∧ v.Matches f.value

variable {Γ : Classes}

/-! ### Values that match -/

/-- Rows match if their items do, one by one. -/
theorem matches_row_iff {form : RowForm} {vs ws : List Value} :
    (Value.row form vs).Matches (.row form ws) ↔ List.Forall₂ Value.Matches vs ws := by
  constructor
  · intro h
    generalize hv : Value.row form vs = v at h
    generalize hw : Value.row form ws = w at h
    cases h with
    | refl v =>
      obtain ⟨-, rfl⟩ := Value.row.inj (hv.trans hw.symm)
      exact List.forall₂_same.mpr fun v _ => .refl v
    | row _ h =>
      obtain ⟨-, rfl⟩ := Value.row.inj hv
      obtain ⟨-, rfl⟩ := Value.row.inj hw
      exact h
    | mapping | object => cases hv
  · exact .row form

/-- Mappings from texts are the same if their entries are. -/
theorem mapping_injective {es fs : Entries String Value}
    (h : Value.mapping es = Value.mapping fs) : es = fs := by
  have hinjective : Function.Injective fun e : String × Value => (Value.text e.1, e.2) := by
    rintro ⟨k, v⟩ ⟨k', v'⟩ h
    obtain ⟨hk, rfl⟩ := Prod.mk.inj h
    exact congrArg (·, v) (Value.text.inj hk)
  exact hinjective.list_map (Value.dict.inj h)

/-- Mappings with the same keys match if their values do. -/
theorem matches_mapping_iff {es : Entries String Value} {k : String × Value → Value} :
    (Value.mapping es).Matches (.mapping (es.map fun e => (e.1, k e))) ↔
      ∀ e ∈ es, e.2.Matches (k e) := by
  constructor
  · intro h
    generalize hv : Value.mapping es = v at h
    generalize hw : Value.mapping (es.map fun e => (e.1, k e)) = w at h
    have hvalues {fs gs : Entries String Value} (hfs : es = fs)
        (hgs : (es.map fun e => (e.1, k e)) = gs)
        (h : List.Forall₂ Value.Matches (fs.map Prod.snd) (gs.map Prod.snd)) :
        ∀ e ∈ es, e.2.Matches (k e) := by
      subst hfs hgs
      rw [List.map_map, List.forall₂_map_left_iff, List.forall₂_map_right_iff,
        List.forall₂_same] at h
      exact h
    cases h with
    | refl v =>
      exact hvalues rfl (mapping_injective (hv.trans hw.symm)).symm
        (List.forall₂_same.mpr fun v _ => .refl v)
    | mapping _ h => exact hvalues (mapping_injective hv) (mapping_injective hw) h
    | row | object => cases hv
  · intro h
    refine .mapping (by simp [keys]) ?_
    rwa [List.map_map, List.forall₂_map_left_iff, List.forall₂_map_right_iff, List.forall₂_same]

/-- Objects with attributes of the same names match if these do. -/
theorem matches_object_iff {name : String} {attrs attrs' : Entries String Value}
    (hkeys : (keys attrs).Perm (keys attrs')) :
    (Value.object name attrs).Matches (.object name attrs') ↔
      ∀ k v w, get? attrs k = some v → get? attrs' k = some w → v.Matches w := by
  constructor
  · intro h
    generalize hv : Value.object name attrs = v at h
    generalize hw : Value.object name attrs' = w at h
    cases h with
    | refl v =>
      obtain ⟨-, rfl⟩ := Value.object.inj (hv.trans hw.symm)
      intro k v w hv hw
      obtain rfl := Option.some.inj (hv.symm.trans hw)
      exact .refl v
    | object _ _ h =>
      obtain ⟨-, rfl⟩ := Value.object.inj hv
      obtain ⟨-, rfl⟩ := Value.object.inj hw
      exact h
    | row | mapping => cases hv
  · exact .object name hkeys

/-! ### Lists and mappings -/

/-- A list is read if its items are. -/
theorem reads_list_iff {spelling : Spelling} {item : Hint} {vs : List Value} {g : Value → Json} :
    (Hint.row .list spelling item).Reads Γ (.list (vs.map g)) (.row .list vs) ↔
      ∀ v ∈ vs, item.Reads Γ (g v) v := by
  have hvalues (k : Value → Fit) :
      (Value.row .list vs).Matches (.row .list ((vs.map k).map Fit.value)) ↔
        ∀ v ∈ vs, v.Matches (k v).value := by
    rw [matches_row_iff, List.map_map, List.forall₂_map_right_iff, List.forall₂_same]
    rfl
  unfold Hint.Reads
  rw [Json.fit]
  constructor
  · rintro ⟨f, hf, hmatches⟩
    cases hitems : Json.fitItems Γ item (vs.map g) with
    | error e => simp [hitems] at hf
    | ok fits =>
      have hitem := List.forall_mem_map.mp (exists_fit_of_fitItems hitems)
      choose! k hk using hitem
      obtain rfl := Except.ok.inj (hitems.symm.trans (fitItems_map hk))
      simp only [hitems] at hf
      cases hf
      exact fun v hv => ⟨k v, hk v hv, (hvalues k).mp hmatches v hv⟩
  · intro h
    choose! k hk using h
    rw [fitItems_map fun v hv => (hk v hv).1]
    exact ⟨_, rfl, (hvalues k).mpr fun v hv => (hk v hv).2⟩

/-- Entries under texts that stand once make the mapping of the entries. -/
theorem dictOf_texts {es : Entries String Value} (hes : (keys es).Nodup) :
    Value.dictOf (es.map fun (k, v) => (.text k, v)) = .mapping es := by
  have hput (es : Entries String Value) (k : String) (v : Value) :
      Value.putEntry (es.map fun (k, v) => (.text k, v)) (.text k) v =
        (put es k v).map fun (k, v) => (.text k, v) := by
    induction es with
    | nil => rfl
    | cons e es ih =>
      by_cases hk : e.1 = k <;> simp [Value.putEntry, put, Value.equals_text, Value.asText?, hk, ih]
  have hall (es more : Entries String Value) :
      (more.map fun (k, v) => (Value.text k, v)).foldl
          (fun acc e => Value.putEntry acc e.1 e.2) (es.map fun (k, v) => (.text k, v)) =
        (putAll es more).map fun (k, v) => (.text k, v) := by
    induction more generalizing es with
    | nil => rfl
    | cons e more ih =>
      rw [List.map_cons, List.foldl_cons, hput, ih]
      rfl
  have hself : putAll [] es = es := putAll_of_nodup (by simpa using hes)
  have hdict := hall [] es
  rw [hself] at hdict
  exact congrArg Value.dict hdict

/-- A mapping is read if its values are. -/
theorem reads_mapping_iff {spelling : Spelling} {value : Hint} {es : Entries String Value}
    {g : String × Value → Json} (hkeys : (keys es).Nodup) :
    (Hint.dict spelling (.builtin .str) value).Reads Γ (.object (es.map fun e => (e.1, g e)))
        (.mapping es) ↔ ∀ e ∈ es, value.Reads Γ (g e) e.2 := by
  have hvalues (k : String × Value → Fit) :
      Value.dictOf ((es.map fun e => (Fit.of (.text e.1) .exact, k e)).map fun p =>
        (p.1.value, p.2.value)) = .mapping (es.map fun e => (e.1, (k e).value)) := by
    rw [← dictOf_texts (by simpa [keys, Function.comp_def] using hkeys), List.map_map, List.map_map]
    rfl
  unfold Hint.Reads
  rw [Json.fit]
  constructor
  · rintro ⟨f, hf, hmatches⟩
    cases hentries : Json.fitEntries Γ (.builtin .str) value (es.map fun e => (e.1, g e)) with
    | error e => simp [hentries] at hf
    | ok pairs =>
      have hvalue := List.forall_mem_map.mp (exists_fit_of_fitEntries hentries)
      choose! k hk using hvalue
      obtain rfl := Except.ok.inj (hentries.symm.trans (fitEntries_map hk))
      simp only [hentries] at hf
      cases hf
      rw [Fit.gather, hvalues, matches_mapping_iff] at hmatches
      exact fun e he => ⟨k e, hk e he, hmatches e he⟩
  · intro h
    choose! k hk using h
    rw [fitEntries_map fun e he => (hk e he).1]
    refine ⟨_, rfl, ?_⟩
    rw [Fit.gather, hvalues, matches_mapping_iff]
    exact fun e he => (hk e he).2

/-! ### Values that may be absent -/

/-- What is not null is read as an optional value if it is read as one of the type. -/
theorem reads_optional_iff {a : Hint} {hs : List Hint}
    (hhs : hs = [a, .builtin .noneType] ∨ hs = [.builtin .noneType, a]) {j : Json} (hj : j ≠ .null)
    {v : Value} : (Hint.union hs).Reads Γ j v ↔ a.Reads Γ j v := by
  simp only [Hint.Reads, fit_optional_eq_ok_iff hhs hj]

/-- Null is read as the absent value. -/
theorem reads_optional_null {a : Hint} {hs : List Hint}
    (hhs : hs = [a, .builtin .noneType] ∨ hs = [.builtin .noneType, a]) :
    (Hint.union hs).Reads Γ .null .null := by
  have hnone : hs.any Hint.isNoneType = true := by
    obtain rfl | rfl := hhs <;> simp [Hint.isNoneType]
  exact ⟨.of .null .exact, by rw [Json.fit, if_pos hnone], .refl _⟩

/-! ### Records and models -/

/-- A class reads a tree as an object if each field is fitted as a value that the attribute
matches. -/
theorem reads_object_iff {name : String} {d : ClassDecl} (hd : Γ.find? name = some d)
    (hkind : ∀ mixin, d.kind ≠ .enumeration mixin)
    (hstored : Γ.storedFields (.declared name) = Γ.fields (.declared name))
    {attrs : Entries String Value}
    (hnames : (keys attrs).Perm ((Γ.fields (.declared name)).map FieldDecl.name))
    {es : Entries String Json} :
    (Hint.cls (.declared name)).Reads Γ (.object es) (.object name attrs) ↔
      ∀ f ∈ Γ.fields (.declared name), ∃ a, Json.fitField Γ es f = .ok a ∧
        ∀ v, get? attrs f.name = some v → v.Matches a.value := by
  have hmatches (k : FieldDecl → Fit) :
      (Value.object name attrs).Matches
          (.object name ((Γ.fields (.declared name)).map fun f => (f.name, (k f).value))) ↔
        ∀ f ∈ Γ.fields (.declared name), ∀ v, get? attrs f.name = some v →
          v.Matches (k f).value := by
    have hkeys : keys ((Γ.fields (.declared name)).map fun f => (f.name, (k f).value)) =
        (Γ.fields (.declared name)).map FieldDecl.name := by
      simp [keys, Function.comp_def]
    rw [matches_object_iff (by rwa [hkeys])]
    constructor
    · intro h f hf v hv
      exact h f.name v _ hv (get?_of_mem (hkeys ▸ nodup_names_fields Γ _)
        (List.mem_map_of_mem (f := fun f => (f.name, (k f).value)) hf))
    · intro h key v w hv hw
      obtain ⟨f, hf, heq⟩ := List.mem_map.mp (mem_of_get? hw)
      obtain ⟨rfl, rfl⟩ := Prod.mk.inj heq
      exact h f hf v hv
  have hread {w : Value} := fit_object_eq_ok_iff (Γ := Γ) hd hkind (j := .object es) (w := w)
  rw [hstored] at hread
  constructor
  · rintro ⟨f, hf, hvalue⟩
    obtain ⟨_, hes, k, hk, hw⟩ := hread.mp ⟨f, hf, rfl⟩
    obtain rfl := Json.object.inj hes
    rw [hw, hmatches] at hvalue
    exact fun f hf => ⟨k f, hk f hf, hvalue f hf⟩
  · intro h
    choose! k hk using h
    obtain ⟨f, hf, hvalue⟩ := hread.mpr ⟨es, rfl, k, fun f hf => (hk f hf).1, rfl⟩
    refine ⟨f, hf, ?_⟩
    rw [hvalue, hmatches]
    exact fun f hf => (hk f hf).2

end Carryover
