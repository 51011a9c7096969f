import Carryover.Hint.Schema
import Carryover.Json.Reader
import Carryover.Json.Writer
import Carryover.Proofs.Class.Fields
import Carryover.Proofs.Hint.Proper
import Carryover.Proofs.Json.Conformance

/-!
# Types whose values are written and read alike

Flags, whole numbers, doubles and texts, lists, mappings from texts, values that may be absent, and
the records and models that have such fields alone are written and read alike. Such a type can be
read (`unreadable?_of_isForm`). A type that is the same one is an order of it, in which the absent
value may stand in another place (`reorders_of_same`), and so a type of the forms with the same
values (`Hint.Reorders.isForm`, `Hint.Reorders.inhabits`).

| type | values that inhabit it |
| --- | --- |
| flag, whole number, double, text | those of its own class |
| list | lists of values that inhabit the type of the items |
| mapping | mappings from texts, each once, to values that inhabit the type of the values |
| union | those that inhabit a member |
| record, model | objects with the fields as attributes, in any order |
-/

namespace Carryover

/-- Types made of flags, whole numbers, doubles, texts and the declared classes given. -/
inductive Hint.IsForm (declared : String → Prop) : Hint → Prop
  | bool : IsForm declared (.builtin .bool)
  | int : IsForm declared (.builtin .int)
  | float : IsForm declared (.builtin .float)
  | str : IsForm declared (.builtin .str)
  | list (spelling : Spelling) {item : Hint} (hitem : IsForm declared item) :
      IsForm declared (.row .list spelling item)
  | dict (spelling : Spelling) {value : Hint} (hvalue : IsForm declared value) :
      IsForm declared (.dict spelling (.builtin .str) value)
  | optional {h : Hint} {hs : List Hint} (hh : IsForm declared h)
      (hhs : hs = [h, .builtin .noneType] ∨ hs = [.builtin .noneType, h]) :
      IsForm declared (.union hs)
  | cls {name : String} (hname : declared name) : IsForm declared (.cls (.declared name))
  | annotated {base : Hint} (notes : List Note) (hbase : IsForm declared base) :
      IsForm declared (.annotated base notes)
  | written (text : String) {meaning : Hint} (hmeaning : IsForm declared meaning) :
      IsForm declared (.written text meaning)

/-- Whether a declared class is a record or a model whose fields have types of the forms. -/
structure Classes.HasHints (Γ : Classes) (declared : String → Prop) (name : String) : Prop where
  found : ∃ d, Γ.find? name = some d ∧ ∀ mixin, d.kind ≠ .enumeration mixin
  hasFields : Γ.isRecord (.declared name) = true ∨ Γ.isModel (.declared name) = true
  hints : ∀ f ∈ Γ.fields (.declared name), f.hint.IsForm declared

/-- Whether a declared class is a record or a model, its fields have types of the forms and names
in the JSON of its objects that differ, and are written under the names that they are read under.
Those of a record are its own: no alias stands in the place of a name, and no property in that of an
attribute, which the constructor could not set. -/
structure Classes.HasForm (Γ : Classes) (declared : String → Prop) (name : String) : Prop where
  found : ∃ d, Γ.find? name = some d ∧ ∀ mixin, d.kind ≠ .enumeration mixin
  hasFields : Γ.isRecord (.declared name) = true ∨ Γ.isModel (.declared name) = true
  hints : ∀ f ∈ Γ.fields (.declared name), f.hint.IsForm declared
  jsonNames : ((Γ.fields (.declared name)).map FieldDecl.jsonName).Nodup
  ownNames : Γ.isModel (.declared name) = false →
    ∀ f ∈ Γ.fields (.declared name), f.jsonName = f.name
  oneName : Γ.isModel (.declared name) = true →
    ∀ f ∈ Γ.fields (.declared name), f.shownName = f.jsonName
  unhidden : Γ.isModel (.declared name) = false →
    ∀ f ∈ Γ.fields (.declared name), ∀ o, Γ.holding? (.declared name) f.name ≠ some (.property o)

/-- A mapping from texts. -/
def Value.mapping (es : Entries String Value) : Value :=
  .dict (es.map fun (k, v) => (.text k, v))

/-- Whether a value is one of a type exactly. -/
inductive Value.Inhabits (Γ : Classes) : Hint → Value → Prop
  | bool (b : Bool) : Inhabits Γ (.builtin .bool) (.bool b)
  | int (i : Int) : Inhabits Γ (.builtin .int) (.int i)
  | float (x : Number.Double) : Inhabits Γ (.builtin .float) (.float x)
  | str (s : String) : Inhabits Γ (.builtin .str) (.text s)
  | null : Inhabits Γ (.builtin .noneType) .null
  | list (spelling : Spelling) {item : Hint} {vs : List Value}
      (hvs : ∀ v ∈ vs, Inhabits Γ item v) : Inhabits Γ (.row .list spelling item) (.row .list vs)
  | dict (spelling : Spelling) {value : Hint} {es : Entries String Value}
      (hkeys : (Entries.keys es).Nodup) (hes : ∀ e ∈ es, Inhabits Γ value e.2) :
      Inhabits Γ (.dict spelling (.builtin .str) value) (.mapping es)
  | union {hs : List Hint} {h : Hint} {v : Value} (hmem : h ∈ hs) (hv : Inhabits Γ h v) :
      Inhabits Γ (.union hs) v
  | object {name : String} {attrs : Entries String Value}
      (hnames : (Entries.keys attrs).Perm ((Γ.fields (.declared name)).map FieldDecl.name))
      (hattrs : ∀ f ∈ Γ.fields (.declared name), ∀ w, Entries.get? attrs f.name = some w →
        Inhabits Γ f.hint w) : Inhabits Γ (.cls (.declared name)) (.object name attrs)
  | annotated {base : Hint} (notes : List Note) {v : Value} (hv : Inhabits Γ base v) :
      Inhabits Γ (.annotated base notes) v
  | written (text : String) {meaning : Hint} {v : Value} (hv : Inhabits Γ meaning v) :
      Inhabits Γ (.written text meaning) v

/-- Whether a value that stands inside of `depth` others is within the limits of the reader: the
nesting is not too deep, and its whole numbers are read back from their texts. -/
inductive Value.Legible : Nat → Value → Prop
  | null {depth : Nat} (h : depth ≤ Json.depthLimit) : Legible depth .null
  | bool {depth : Nat} (h : depth ≤ Json.depthLimit) (b : Bool) : Legible depth (.bool b)
  | int {depth : Nat} (h : depth ≤ Json.depthLimit) {i : Int}
      (hi : Json.parse? (Json.int i).render = some (.int i)) : Legible depth (.int i)
  | float {depth : Nat} (h : depth ≤ Json.depthLimit) (x : Number.Double) :
      Legible depth (.float x)
  | text {depth : Nat} (h : depth ≤ Json.depthLimit) (s : String) : Legible depth (.text s)
  | row {depth : Nat} (h : depth ≤ Json.depthLimit) {form : RowForm} {vs : List Value}
      (hvs : ∀ v ∈ vs, Legible (depth + 1) v) : Legible depth (.row form vs)
  | dict {depth : Nat} (h : depth ≤ Json.depthLimit) {es : List (Value × Value)}
      (hes : ∀ e ∈ es, Legible (depth + 1) e.2) : Legible depth (.dict es)
  | object {depth : Nat} (h : depth ≤ Json.depthLimit) {name : String}
      {attrs : Entries String Value} (hattrs : ∀ e ∈ attrs, Legible (depth + 1) e.2) :
      Legible depth (.object name attrs)

/-- Whether two values are one but for the order of the attributes of objects. -/
inductive Value.Matches : Value → Value → Prop
  | refl (v : Value) : Matches v v
  | row (form : RowForm) {vs ws : List Value} (h : List.Forall₂ Matches vs ws) :
      Matches (.row form vs) (.row form ws)
  | mapping {es fs : Entries String Value} (hkeys : Entries.keys es = Entries.keys fs)
      (h : List.Forall₂ Matches (es.map Prod.snd) (fs.map Prod.snd)) :
      Matches (.mapping es) (.mapping fs)
  | object (name : String) {attrs attrs' : Entries String Value}
      (hkeys : (Entries.keys attrs).Perm (Entries.keys attrs'))
      (h : ∀ k v w, Entries.get? attrs k = some v → Entries.get? attrs' k = some w →
        Matches v w) : Matches (.object name attrs) (.object name attrs')

/-- What is within the limits does not stand too deep. -/
theorem Value.Legible.depth_le {depth : Nat} {v : Value} (hv : v.Legible depth) :
    depth ≤ Json.depthLimit := by
  cases hv <;> assumption

variable {Γ : Classes} {declared : String → Prop}

/-- The fields of a class of the forms have types of the forms. -/
theorem Classes.HasForm.hasHints {name : String} (hform : Γ.HasForm declared name) :
    Γ.HasHints declared name :=
  ⟨hform.found, hform.hasFields, hform.hints⟩

/-! ### Types of the forms can be read -/

/-- Without failures there is no first one. -/
theorem firstFailure_eq_none {fs : List (Option Failure)} (h : ∀ f ∈ fs, f = none) :
    Hint.firstFailure fs = none := by
  simpa [Hint.firstFailure] using h

/-- Fields whose types can be read leave nothing to refuse. -/
theorem fieldsFailure_eq_none {room : Nat} {seen : List String} {fields : List FieldDecl}
    (hforms : ∀ f ∈ fields, f.hint.IsForm declared)
    (hfields : ∀ f ∈ fields, f.hint.schemaFailure Γ room seen = none) :
    Hint.fieldsFailure Γ room seen fields = none := by
  have heach : Hint.eachFailure Γ room seen fields = none := by
    clear hforms
    induction fields with
    | nil => rw [Hint.eachFailure]
    | cons f fields ih =>
      obtain ⟨hf, hrest⟩ := List.forall_mem_cons.mp hfields
      rw [Hint.eachFailure, hf, ih hrest]
      rfl
  rw [Hint.fieldsFailure, firstFailure_eq_none, heach]
  · rfl
  · refine List.forall_mem_map.mpr fun f hf => ?_
    cases hform : f.hint with
    | failing text fault =>
      have hfailing := hforms f hf
      rw [hform] at hfailing
      cases hfailing
    | _ => rfl

/-- No value is refused for a type of the forms, however deep classes are opened. -/
theorem schemaFailure_of_hasHints (hΓ : ∀ name, declared name → Γ.HasHints declared name)
    (room : Nat) (seen : List String) {h : Hint} (hh : h.IsForm declared) :
    h.schemaFailure Γ room seen = none := by
  induction room using Nat.strongRecOn generalizing seen h with
  | ind room ihroom =>
    induction hh with
    | list _ _ ih | annotated _ _ ih | written _ _ ih =>
      rw [Hint.schemaFailure]
      exact ih
    | dict _ _ ih =>
      rw [Hint.schemaFailure, ih]
      simp [Hint.schemaFailure, Hint.isReadable]
    | optional _ hhs ih =>
      obtain rfl | rfl := hhs <;>
        simp [Hint.schemaFailure, Hint.anyFailure, Hint.isReadable, ih]
    | @cls name hname =>
      have hhints := hΓ name hname
      obtain ⟨d, hd, hkind⟩ := hhints.found
      have hfields : (Γ.isRecord (.declared name) || Γ.isModel (.declared name)) = true := by
        simpa using hhints.hasFields
      rw [Hint.schemaFailure.eq_def]
      simp only [hd, hfields, Bool.not_true, Bool.false_eq_true, if_false]
      repeat' split
      · rfl
      · rfl
      · exact fieldsFailure_eq_none hhints.hints fun f hf =>
          ihroom _ (Nat.lt_succ_self _) _ (hhints.hints f hf)
    | _ => simp [Hint.schemaFailure, Hint.isReadable]

/-- **A type of the forms can be read.** -/
theorem unreadable?_of_hasHints (hΓ : ∀ name, declared name → Γ.HasHints declared name) {h : Hint}
    (hh : h.IsForm declared) : h.unreadable? Γ = none := by
  unfold Hint.unreadable?
  split
  · cases hh
  · exact schemaFailure_of_hasHints hΓ _ _ hh

/-- A type of the forms, with classes whose fields are written and read under one name, can be read.
-/
theorem unreadable?_of_isForm (hΓ : ∀ name, declared name → Γ.HasForm declared name) {h : Hint}
    (hh : h.IsForm declared) : h.unreadable? Γ = none :=
  unreadable?_of_hasHints (fun name hname => (hΓ name hname).hasHints) hh

/-- Fields of the forms are all held by the objects. -/
theorem storedFields_of_hasHints {name : String} (hhints : Γ.HasHints declared name) :
    Γ.storedFields (.declared name) = Γ.fields (.declared name) := by
  refine List.filter_eq_self.mpr fun f hf => ?_
  rw [Bool.not_eq_true', Bool.eq_false_iff]
  intro hinit
  have hhint := hhints.hints f hf
  obtain ⟨kind, h | ⟨text, h⟩⟩ := exists_initVar_of_initOnly hf hinit
  · rw [h] at hhint
    cases hhint
  · rw [h] at hhint
    cases hhint with
    | written _ hmeaning => cases hmeaning

/-- A type of the forms is a target. -/
theorem checkTarget_of_isForm {h : Hint} (hh : h.IsForm declared) : Γ.checkTarget h = .ok () := by
  cases hh <;> rfl

/-! ### Types that are the same -/

/-- Each of the hints is the same as one of the others. -/
theorem exists_same_of_eachIn {hs ks : List Hint} (hsame : Hint.eachIn hs ks = true) :
    ∀ h ∈ hs, ∃ k ∈ ks, h.same k = true := by
  induction hs with
  | nil => exact List.forall_mem_nil _
  | cons h hs ih =>
    simp only [Hint.eachIn, Bool.and_eq_true, List.any_eq_true] at hsame
    exact List.forall_mem_cons.mpr ⟨hsame.1, ih hsame.2⟩

/-- Whether hints are the members of the union of a type and the absent value, in either order. -/
def Hint.IsOptional (h : Hint) (hs : List Hint) : Prop :=
  hs = [h, .builtin .noneType] ∨ hs = [.builtin .noneType, h]

/-- The members of such a union. -/
theorem mem_optional_iff {a : Hint} {hs : List Hint} (hhs : a.IsOptional hs) (x : Hint) :
    x ∈ hs ↔ x = a ∨ x = .builtin .noneType := by
  obtain rfl | rfl := hhs <;> simp [or_comm]

/-- The members of such a union tell the type. -/
theorem Hint.IsOptional.eq {a b : Hint} {hs : List Hint} (ha : a.IsOptional hs)
    (hb : b.IsOptional hs) : a = b := by
  obtain rfl | rfl := ha <;> obtain h | h := hb <;> simp_all

/-- Of the unions that list each member once, only those of a like type and the absent value are
the same as the union of a type and the absent value. -/
theorem optional_of_same {a : Hint} {hs ks : List Hint} (hhs : a.IsOptional hs)
    (hproper : (Hint.union ks).isProper = true)
    (hsame : (Hint.union ks).same (.union hs) = true)
    (hone : ∀ x ∈ ks, ∀ y ∈ ks, x.same a = true → y.same a = true → x.same y = true) :
    ∃ b : Hint, b.IsOptional ks ∧ b.same a = true := by
  simp only [Hint.same, Bool.and_eq_true, beq_iff_eq] at hsame
  have hlength : ks.length = 2 := by
    obtain rfl | rfl := hhs <;> exact hsame.1
  obtain ⟨x, y, rfl⟩ := List.length_eq_two.mp hlength
  have hdiffer : x.same y = false := by
    simpa using (Hint.isProper_union.mp hproper).2
  have hmember (z : Hint) (hz : z ∈ [x, y]) : z.same a = true ∨ z = .builtin .noneType := by
    obtain ⟨m, hm, hzm⟩ := exists_same_of_eachIn hsame.2 z hz
    obtain rfl | rfl := (mem_optional_iff hhs m).mp hm
    · exact .inl hzm
    · exact .inr (eq_of_same_cls hzm)
  obtain hx | rfl := hmember x (by simp) <;> obtain hy | rfl := hmember y (by simp)
  · rw [hone x (by simp) y (by simp) hx hy] at hdiffer
    cases hdiffer
  · exact ⟨x, .inl rfl, hx⟩
  · exact ⟨y, .inr rfl, hy⟩
  · cases hdiffer

/-- The unions of types that are the same and the absent value are the same. -/
theorem same_optional {a b : Hint} {hs ks : List Hint} (hhs : a.IsOptional hs)
    (hks : b.IsOptional ks) (h : a.same b = true) :
    (Hint.union hs).same (.union ks) = true := by
  obtain rfl | rfl := hhs <;> obtain rfl | rfl := hks <;> simp [Hint.same, Hint.eachIn, h]

/-- Whether two types are one but for the place of the absent value in unions. -/
inductive Hint.Reorders : Hint → Hint → Prop
  | cls (c : ClassName) : Reorders (.cls c) (.cls c)
  | list (spelling : Spelling) {h k : Hint} (hitem : Reorders h k) :
      Reorders (.row .list spelling h) (.row .list spelling k)
  | dict (spelling : Spelling) {h k : Hint} (hvalue : Reorders h k) :
      Reorders (.dict spelling (.builtin .str) h) (.dict spelling (.builtin .str) k)
  | optional {h k : Hint} {hs ks : List Hint} (hh : Reorders h k) (hhs : h.IsOptional hs)
      (hks : k.IsOptional ks) : Reorders (.union hs) (.union ks)
  | annotated (notes : List Note) {h k : Hint} (hbase : Reorders h k) :
      Reorders (.annotated h notes) (.annotated k notes)

namespace Hint.Reorders

variable {h k : Hint}

/-- Two orders of one type are the same type. -/
theorem same (hk : h.Reorders k) {h' : Hint} (hk' : h'.Reorders k) : h.same h' = true := by
  induction hk generalizing h' with
  | cls c =>
    cases hk'
    simp [Hint.same]
  | list _ _ ih =>
    cases hk' with
    | list _ hitem => simp [Hint.same, ih hitem]
  | dict _ _ ih =>
    cases hk' with
    | dict _ hvalue => simp [Hint.same, ih hvalue]
  | optional _ hhs hks ih =>
    cases hk' with
    | optional hh' hhs' hks' =>
      obtain rfl := hks'.eq hks
      exact same_optional hhs hhs' (ih hh')
  | annotated notes _ ih =>
    cases hk' with
    | annotated _ hbase => simp [Hint.same, ih hbase]

/-- An order of a type of the forms is of the forms. -/
theorem isForm (hk : h.Reorders k) (hform : k.IsForm declared) : h.IsForm declared := by
  induction hk with
  | cls => exact hform
  | list spelling _ ih =>
    cases hform with
    | list _ hitem => exact .list spelling (ih hitem)
  | dict spelling _ ih =>
    cases hform with
    | dict _ hvalue => exact .dict spelling (ih hvalue)
  | optional _ hhs hks ih =>
    cases hform with
    | optional hh hks' =>
      obtain rfl := hks.eq hks'
      exact .optional (ih hh) hhs
  | annotated notes _ ih =>
    cases hform with
    | annotated _ hbase => exact .annotated notes (ih hbase)

/-- The values of a type are those of each order of it. -/
theorem inhabits (hk : h.Reorders k) {v : Value} (hv : v.Inhabits Γ k) : v.Inhabits Γ h := by
  induction hk generalizing v with
  | cls => exact hv
  | list spelling _ ih =>
    cases hv with
    | list _ hvs => exact .list spelling fun v hv => ih (hvs v hv)
  | dict spelling _ ih =>
    cases hv with
    | dict _ hkeys hes => exact .dict spelling hkeys fun e he => ih (hes e he)
  | optional _ hhs hks ih =>
    cases hv with
    | union hmem hv =>
      obtain rfl | rfl := (mem_optional_iff hks _).mp hmem
      · exact .union ((mem_optional_iff hhs _).mpr (.inl rfl)) (ih hv)
      · exact .union ((mem_optional_iff hhs _).mpr (.inr rfl)) hv
  | annotated notes _ ih =>
    cases hv with
    | annotated _ hv => exact .annotated notes (ih hv)

end Hint.Reorders

/-- **A type that is the same as one of the forms is an order of it.** -/
theorem reorders_of_same {h k : Hint} (hk : k.IsForm declared) (ht : k.IsTyped)
    (hs : h.same k = true) (hproper : h.isProper = true) : h.Reorders k := by
  induction hk generalizing h with
  | list spelling hitem ih =>
    cases ht with
    | row _ _ ht =>
      cases h <;> simp only [Hint.same, Bool.and_eq_true, beq_iff_eq, Bool.false_eq_true] at hs
      obtain ⟨⟨rfl, rfl⟩, hs⟩ := hs
      exact .list _ (ih ht hs hproper)
  | dict spelling hvalue ih =>
    cases ht with
    | dict _ _ ht =>
      cases h <;> simp only [Hint.same, Bool.and_eq_true, beq_iff_eq, Bool.false_eq_true] at hs
      obtain ⟨⟨rfl, hkey⟩, hs⟩ := hs
      obtain rfl := eq_of_same_cls hkey
      exact .dict _ (ih ht hs (Bool.and_eq_true_iff.mp hproper).2)
  | @optional a members ha hmembers ih =>
    cases ht with
    | union ht =>
      have hta := ht a ((mem_optional_iff hmembers a).mpr (.inl rfl))
      cases h <;> simp only [Hint.same, Bool.false_eq_true] at hs
      have heach := (Hint.isProper_union.mp hproper).1
      -- the members that are the same as the type are orders of it, so they are the same
      obtain ⟨b, hmembers', hba⟩ := optional_of_same hmembers hproper
        (by simpa [Hint.same] using hs) fun x hx y hy hxa hya =>
          (ih hta hxa (heach x hx)).same (ih hta hya (heach y hy))
      have hb := heach b ((mem_optional_iff hmembers' b).mpr (.inl rfl))
      exact .optional (ih hta hba hb) hmembers' hmembers
  | annotated notes hbase ih =>
    cases ht with
    | annotated _ ht =>
      cases h <;> simp only [Hint.same, Bool.and_eq_true, beq_iff_eq, Bool.false_eq_true] at hs
      obtain ⟨hs, rfl⟩ := hs
      exact .annotated _ (ih ht hs hproper)
  | written => cases ht
  | bool | int | float | str | cls =>
    obtain rfl := eq_of_same_cls hs
    exact .cls _

end Carryover
