import Carryover.Proofs.Class.Fields
import Carryover.Proofs.Json.Conformance

/-!
# How trees fit composed types

A tree fits a composed type if its parts fit the parts of the type.

| type | fits if |
| --- | --- |
| list | each item does |
| mapping from texts | each value does |
| value that may be absent | it is `null`, or fits the type of the value |
| record, model | each field does: by the tree under its name, or without one by its default |
-/

namespace Carryover

open Entries

namespace Json

/-- What an object gives for a field: what the tree under the name of the field fits as, or else the
default. -/
def fitField (Γ : Classes) (es : Entries String Json) (f : FieldDecl) : Except Failure Fit :=
  match get? es f.jsonName with
  | some j => fit Γ f.hint j
  | none =>
    match f.default with
    | some v => .ok (.of v .exact)
    | none => .error .unfit

end Json

instance : Inhabited Fit :=
  ⟨.of .null .exact⟩

variable {Γ : Classes}

/-! ### Lists and mappings -/

/-- Trees that fit one type each fit it as a list. -/
theorem fitItems_map {α : Type} {item : Hint} {vs : List α} {g : α → Json} {k : α → Fit}
    (h : ∀ v ∈ vs, Json.fit Γ item (g v) = .ok (k v)) :
    Json.fitItems Γ item (vs.map g) = .ok (vs.map k) := by
  induction vs with
  | nil =>
    rw [List.map_nil, Json.fitItems]
    rfl
  | cons v vs ih =>
    obtain ⟨hv, hvs⟩ := List.forall_mem_cons.mp h
    rw [List.map_cons, Json.fitItems, hv, ih hvs]
    rfl

/-- Trees that fit a type as a list each fit it. -/
theorem exists_fit_of_fitItems {item : Hint} {js : List Json} {fits : List Fit}
    (h : Json.fitItems Γ item js = .ok fits) : ∀ j ∈ js, ∃ f, Json.fit Γ item j = .ok f := by
  induction js generalizing fits with
  | nil => exact List.forall_mem_nil _
  | cons j js ih =>
    rw [Json.fitItems] at h
    obtain ⟨f, rest, hf, hrest, -⟩ := both_eq_ok h
    exact List.forall_mem_cons.mpr ⟨⟨f, hf⟩, ih hrest⟩

/-- A text fits the texts exactly. -/
theorem fit_text (s : String) :
    Json.fit Γ (.builtin .str) (.text s) = .ok (.of (.text s) .exact) := by
  rw [Json.fit]
  rfl

/-- Trees that fit one type each fit it as the values of a mapping from texts. -/
theorem fitEntries_map {α : Type} {value : Hint} {es : Entries String α} {g : String × α → Json}
    {k : String × α → Fit} (h : ∀ e ∈ es, Json.fit Γ value (g e) = .ok (k e)) :
    Json.fitEntries Γ (.builtin .str) value (es.map fun e => (e.1, g e)) =
      .ok (es.map fun e => (.of (.text e.1) .exact, k e)) := by
  induction es with
  | nil =>
    rw [List.map_nil, Json.fitEntries]
    rfl
  | cons e es ih =>
    obtain ⟨he, hes⟩ := List.forall_mem_cons.mp h
    rw [List.map_cons, Json.fitEntries, fit_text, he, ih hes]
    rfl

/-- Trees that fit a type as the values of a mapping each fit it. -/
theorem exists_fit_of_fitEntries {key value : Hint} {es : List (String × Json)}
    {pairs : List (Fit × Fit)} (h : Json.fitEntries Γ key value es = .ok pairs) :
    ∀ e ∈ es, ∃ f, Json.fit Γ value e.2 = .ok f := by
  induction es generalizing pairs with
  | nil => exact List.forall_mem_nil _
  | cons e es ih =>
    rw [Json.fitEntries] at h
    obtain ⟨p, rest, hp, hrest, -⟩ := both_eq_ok h
    obtain ⟨-, f, -, hf, -⟩ := both_eq_ok hp
    exact List.forall_mem_cons.mpr ⟨⟨f, hf⟩, ih hrest⟩

/-! ### Values that may be absent -/

/-- A tree that is there fits a type with the absent value as it fits the type. -/
theorem fit_optional_eq_ok_iff {a : Hint} {hs : List Hint}
    (hhs : hs = [a, .builtin .noneType] ∨ hs = [.builtin .noneType, a]) {j : Json} (hj : j ≠ .null)
    {f : Fit} : Json.fit Γ (.union hs) j = .ok f ↔ Json.fit Γ a j = .ok f := by
  have hunfit : Json.fit Γ (.builtin .noneType) j = .error .unfit := by
    rw [Json.fit]
    cases j <;> first | rfl | contradiction
  rw [Json.fit.eq_def]
  dsimp only
  split
  · contradiction
  · obtain rfl | rfl := hhs
    · rw [Json.fitUnion]
      cases Json.fit Γ a j with
      | ok g =>
        dsimp only
        split_ifs
        · rfl
        · rw [Json.fitUnion, hunfit]
          dsimp only
          rw [Json.fitUnion]
          rfl
      | error e =>
        cases e with
        | unfit =>
          dsimp only
          rw [Json.fitUnion, hunfit]
          dsimp only
          rw [Json.fitUnion]
        | _ => simp
    · rw [Json.fitUnion, hunfit]
      dsimp only
      rw [Json.fitUnion]
      cases Json.fit Γ a j with
      | ok g =>
        dsimp only
        split_ifs
        · rfl
        · rw [Json.fitUnion]
          rfl
      | error e =>
        cases e with
        | unfit =>
          dsimp only
          rw [Json.fitUnion]
        | _ => simp

/-! ### Records and models -/

/-- The tree under a key is the value of the key. -/
theorem map_atKey? (es : List (String × Json)) (k : String) :
    (Json.atKey? es k).map Subtype.val = get? es k := by
  induction es with
  | nil => rfl
  | cons e es ih =>
    rw [Json.atKey?]
    by_cases hk : e.1 = k
    · simp [get?, hk]
    · simpa [get?, hk, Function.comp_def] using ih

/-- A first field fits and then the others. -/
theorem fitFields_cons (f : FieldDecl) (fields : List FieldDecl) (es : List (String × Json)) :
    Json.fitFields Γ (f :: fields) es =
      Fit.both (fun a b => (f, a) :: b) (Json.fitField Γ es f) (Json.fitFields Γ fields es) := by
  rw [Json.fitFields, Json.fitField, ← map_atKey?]
  cases Json.atKey? es f.jsonName <;> rfl

/-- Fields are fitted one by one. -/
theorem fitFields_map {fields : List FieldDecl} {es : List (String × Json)}
    {k : FieldDecl → Fit} (h : ∀ f ∈ fields, Json.fitField Γ es f = .ok (k f)) :
    Json.fitFields Γ fields es = .ok (fields.map fun f => (f, k f)) := by
  induction fields with
  | nil =>
    rw [Json.fitFields]
    rfl
  | cons f fields ih =>
    obtain ⟨hf, hfields⟩ := List.forall_mem_cons.mp h
    rw [fitFields_cons, hf, ih hfields]
    rfl

/-- If fields fit, each of them does. -/
theorem exists_fitField_of_fitFields {fields : List FieldDecl} {es : List (String × Json)}
    {parts : List (FieldDecl × Fit)} (h : Json.fitFields Γ fields es = .ok parts) :
    ∀ f ∈ fields, ∃ a, Json.fitField Γ es f = .ok a := by
  induction fields generalizing parts with
  | nil => exact List.forall_mem_nil _
  | cons f fields ih =>
    rw [fitFields_cons] at h
    obtain ⟨a, rest, ha, hrest, -⟩ := both_eq_ok h
    exact List.forall_mem_cons.mpr ⟨⟨a, ha⟩, ih hrest⟩

/-- **An object is read of a tree exactly if each field is**, and holds what the fields fit as. -/
theorem fit_object_eq_ok_iff {name : String} {d : ClassDecl} (hd : Γ.find? name = some d)
    (hkind : ∀ mixin, d.kind ≠ .enumeration mixin) {j : Json} {w : Value} :
    (∃ f, Json.fit Γ (.cls (.declared name)) j = .ok f ∧ f.value = w) ↔
      ∃ es, j = .object es ∧ ∃ k : FieldDecl → Fit,
        (∀ f ∈ Γ.fields (.declared name), Json.fitField Γ es f = .ok (k f)) ∧
          w = .object name
            ((Γ.storedFields (.declared name)).map fun f => (f.name, (k f).value)) := by
  have hstored (k : FieldDecl → Fit) :
      ((Γ.fields (.declared name)).map fun f => (f, k f)).filter (fun p => !p.1.initOnly) =
        (Γ.storedFields (.declared name)).map fun f => (f, k f) :=
    List.filter_map ..
  rw [Json.fit.eq_def]
  simp only [hd]
  cases j with
  | object es =>
    constructor
    · rintro ⟨f, hf, rfl⟩
      cases hfields : Json.fitFields Γ (Γ.fields (.declared name)) es with
      | error e => simp [hfields] at hf
      | ok parts =>
        have hfield := exists_fitField_of_fitFields hfields
        choose! k hk using hfield
        obtain rfl := Except.ok.inj (hfields.symm.trans (fitFields_map hk))
        simp only [hfields] at hf
        cases hf
        refine ⟨es, rfl, k, hk, ?_⟩
        simp [Fit.gather, hstored, Function.comp_def]
    · rintro ⟨es', hes, k, hk, rfl⟩
      obtain rfl := Json.object.inj hes
      simp only [fitFields_map hk]
      refine ⟨_, rfl, ?_⟩
      simp [Fit.gather, hstored, Function.comp_def]
  | _ => simp

end Carryover
