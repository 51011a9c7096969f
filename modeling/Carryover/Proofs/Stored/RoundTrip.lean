import Carryover.Proofs.Stored.FieldNames

/-!
# Values that are read back

The JSON text of a value that inhabits a type of the forms is read as the type to a value that
matches it (`decode_encode`): the same one but for the order of the attributes of objects, which a
record is written without and a class makes in the order of its fields.

What is shown of a type is that it reads back (`ReadsBack`): the value is written as a tree that the
reader reads from its text, and the type reads the tree. The names of the fields decide whether it
does (`readsFound_of_inhabits`), and each field of a type of the forms is found under the name it is
written under (`findsFields_of_inhabits`). A model with a name for writing alone has no such field
(`not_decode_encode_invoice`).
-/

namespace Carryover

open Entries

variable {Γ : Classes} {declared : String → Prop}

/-- Whether a value that stands inside of `depth` others is written as a tree that fits a type as a
value that matches it. -/
structure ReadsBack (Γ : Classes) (depth room : Nat) (h : Hint) (v : Value) (j : Json) (f : Fit) :
    Prop where
  written : Γ.toJson? true room v = some j
  readable : j.Readable depth
  absent : j = .null → v = .null
  fits : Json.fit Γ h j = .ok f
  kept : v.Matches f.value

/-! ### Types of the forms -/

/-- What is asked of a class without regard to aliases follows from what is asked of it with them. -/
theorem hasAliasedForm_of_hasForm {name : String} (hform : Γ.HasForm declared name) :
    Γ.HasAliasedForm declared name :=
  ⟨hform.hasHints, fun hmodel => by
    rw [List.map_congr_left (hform.oneName hmodel)]
    exact hform.jsonNames, hform.unhidden⟩

/-- The fields of a type of the forms are read where they are written. -/
theorem writtenName_eq_jsonName {name : String} (hform : Γ.HasForm declared name) {f : FieldDecl}
    (hf : f ∈ Γ.fields (.declared name)) : Γ.writtenName name f = f.jsonName := by
  cases hmodel : Γ.isModel (.declared name) with
  | true => rw [writtenName_of_isModel hmodel, hform.oneName hmodel f hf]
  | false => rw [writtenName_of_not_isModel hmodel, hform.ownNames hmodel f hf]

/-- Where fields are written and read under one name, each one is found. -/
theorem findsFields_of_inhabits (hΓ : ∀ name, declared name → Γ.HasForm declared name) {h : Hint}
    {v : Value} (hv : v.Inhabits Γ h) (hh : h.IsForm declared) : v.FindsFields Γ := by
  induction hv with
  | null => exact .null
  | bool | int | float | str => exact .primitive rfl
  | list _ _ ih =>
    cases hh with
    | list _ hitem => exact .list fun v hv => ih v hv hitem
  | dict _ _ _ ih =>
    cases hh with
    | dict _ hvalue => exact .mapping fun e he => ih e he hvalue
  | union hmem hv ih =>
    cases hh with
    | optional ha hhs =>
      obtain rfl | rfl := (mem_optional_iff hhs _).mp hmem
      · exact ih ha
      · cases hv
        exact .null
  | annotated _ _ ih =>
    cases hh with
    | annotated _ hh => exact ih hh
  | written _ _ ih =>
    cases hh with
    | written _ hh => exact ih hh
  | object _ _ ih =>
    cases hh with
    | cls hname =>
      have hform := hΓ _ hname
      exact .object (fun f hf _ w hw => ih f hf w hw (hform.hints f hf)) fun f hf hother =>
        absurd (writtenName_eq_jsonName hform hf) hother

/-- **A value that inhabits a type of the forms is written as a tree that the type reads back.** -/
theorem readsBack_of_inhabits (hΓ : ∀ name, declared name → Γ.HasForm declared name) {h : Hint}
    {v : Value} (hv : v.Inhabits Γ h) (hh : h.IsForm declared) {depth room : Nat}
    (hlegible : v.Legible depth) (hroom : Json.depthLimit < depth + room) :
    ∃ j f, ReadsBack Γ depth room h v j f := by
  obtain ⟨j, hread⟩ := readsFound_of_inhabits
    (fun name hname => hasAliasedForm_of_hasForm (hΓ name hname)) hv hh hlegible
  obtain ⟨f, hfits, hkept⟩ := hread.reads.mpr (findsFields_of_inhabits hΓ hv hh)
  exact ⟨j, f, hread.written room hroom, hread.readable, hread.absent, hfits, hkept⟩

/-! ### Stored values -/

/-- What is read in the place of a type of the forms is one with the same values. -/
theorem isForm_adapterOf {s : Session} {target : Hint} (hform : target.IsForm declared)
    (ht : target.IsTyped) (hproper : ∀ h ∈ s.adapters, h.isProper = true) :
    (s.adapterOf target).IsForm declared ∧
      ∀ v : Value, v.Inhabits Γ target → v.Inhabits Γ (s.adapterOf target) := by
  unfold Session.adapterOf
  cases hfind : s.adapters.find? fun h => h.same target with
  | none => exact ⟨hform, fun v hv => hv⟩
  | some h =>
    have hsame : h.same target = true :=
      List.find?_some (p := fun h : Hint => h.same target) hfind
    have horder := reorders_of_same hform ht hsame (hproper h (List.mem_of_find?_eq_some hfind))
    exact ⟨horder.isForm hform, fun v hv => horder.inhabits hv⟩

/-- The JSON text of a value is no value of a type that the value inhabits. -/
theorem isAlready_jsonText_of_inhabits {v : Value} {target : Hint} (hv : v.Inhabits Γ target)
    (hnull : v ≠ .null) (hp : v.isPrimitive = false) (text : String) :
    Γ.isAlready (.jsonText text) target = false := by
  cases hv with
  | null => exact absurd rfl hnull
  | object => exact isAlready_declared rfl _
  | bool | int | float | str => cases hp
  | _ => rfl

/-- Of the values that inhabit a type, the plain texts alone are texts. -/
theorem asText?_of_inhabits {v : Value} {target : Hint} (hv : v.Inhabits Γ target)
    (htext : ∀ t, v ≠ .text t) : v.asText? = none := by
  induction hv with
  | str s => exact absurd rfl (htext s)
  | union _ _ ih | annotated _ _ ih | written _ _ ih => exact ih htext
  | _ => rfl

/-- The stored form of a value that is no text has the JSON text of the value for its text. -/
theorem exists_stored {v : Value} {target : Hint} (hv : v.Inhabits Γ target) (hnull : v ≠ .null)
    (htext : ∀ t, v ≠ .text t) {text : String} (hjson : Γ.jsonTextOf v = .ok text) :
    ∃ stored, Γ.encode v = .ok stored ∧ stored ≠ .null ∧ Γ.storedText stored = .ok text ∧
      (Γ.isAlready stored target = true → stored = v) := by
  cases hp : v.isPrimitive with
  | true =>
    refine ⟨v, encode_of_isPrimitive hp, hnull, ?_, fun _ => rfl⟩
    rw [Classes.storedText, asText?_of_inhabits hv htext]
    exact hjson
  | false =>
    refine ⟨.jsonText text, ?_, by simp, rfl, fun halready => ?_⟩
    · unfold Classes.encode
      split
      · contradiction
      · rw [hp, if_neg Bool.false_ne_true, hjson]
    · rw [isAlready_jsonText_of_inhabits hv hnull hp text] at halready
      cases halready

/-- **What is stored of a value that inhabits a type of the forms is read back as the type**, but
for texts that are not read as texts, and for the order of the attributes of objects. -/
theorem decode_encode {s : Session} (hΓ : ∀ name, declared name → s.classes.HasForm declared name)
    {target : Hint} (hform : target.IsForm declared) (ht : target.IsTyped)
    (hproper : ∀ h ∈ s.adapters, h.isProper = true) {v : Value}
    (hv : v.Inhabits s.classes target) (hnull : v ≠ .null) (hlegible : v.Legible 0)
    (htext : ∀ t, v = .text t → target = .builtin .str) :
    ∃ stored, s.classes.encode v = .ok stored ∧
      ∀ key, ∃ w, (perform (decode key stored target) s).1 = .ok w ∧ v.Matches w := by
  have hcheck : s.classes.checkTarget target = .ok () := checkTarget_of_isForm hform
  by_cases hv' : ∃ t, v = .text t
  · obtain ⟨t, rfl⟩ := hv'
    obtain rfl := htext t rfl
    exact ⟨.text t, rfl, fun key =>
      ⟨.text t, congrArg Prod.fst (perform_decode_self hnull key s), .refl _⟩⟩
  obtain ⟨hadapter, hvalues⟩ := isForm_adapterOf hform ht hproper
  obtain ⟨j, f, hread⟩ := readsBack_of_inhabits hΓ (hvalues v hv) hadapter hlegible
    (show Json.depthLimit < 0 + Classes.writingRoom by decide)
  have hjson : s.classes.jsonTextOf v = .ok j.render := by
    rw [Classes.jsonTextOf, Classes.json?, hread.written]
  obtain ⟨stored, hstored, hne, hstoredText, halready⟩ :=
    exists_stored hv hnull (fun t ht => hv' ⟨t, ht⟩) hjson
  refine ⟨stored, hstored, fun key => ?_⟩
  cases hi : s.classes.isAlready stored target with
  | true =>
    refine ⟨v, (fst_perform_decode hne key target s).mpr ⟨hcheck, ?_⟩, .refl v⟩
    rw [if_pos hi]
    exact halready hi
  | false =>
    have hisText : target.isText = false := by
      refine isText_eq_false ?_
      rintro rfl
      cases hv
      exact hv' ⟨_, rfl⟩
    refine ⟨f.value, (fst_perform_decode hne key target s).mpr ⟨hcheck, ?_⟩, hread.kept⟩
    rw [hi, hisText]
    exact ⟨_, hstoredText, (readType_eq_ok (unreadable?_of_isForm hΓ hform)).mpr
      ⟨j, f, Json.parse?_render hread.readable, hread.fits, rfl⟩⟩

/-! ### An order -/

/-- The lines of an order: a record. -/
def lineDecl : ClassDecl where
  name := "Line"
  kind := .record
  annotations := [("sku", .builtin .str), ("count", .builtin .int)]

/-- An order: a model whose number is written under another name. -/
def orderDecl : ClassDecl :=
  { lineDecl with
    name := "Order"
    kind := .model
    annotations := [("number", .annotated (.builtin .int) [.alias "orderNumber"]),
      ("lines", .row .list .capital (.cls (.declared "Line"))),
      ("note", .union [.builtin .str, .builtin .noneType])] }

def orders : Classes :=
  { decls := [lineDecl, orderDecl] }

theorem fields_line : orders.fields (.declared "Line") =
    [⟨"sku", .builtin .str, none, false⟩, ⟨"count", .builtin .int, none, false⟩] := rfl

theorem fieldHints_orderDecl : orderDecl.fieldHints = orderDecl.annotations := by
  have hpublic : ∀ name ∈ ["number", "lines", "note"], name.startsWith "_" = false := by
    decide +kernel
  simp only [List.forall_mem_cons] at hpublic
  simp [ClassDecl.fieldHints, orderDecl, hpublic]

theorem fields_order : orders.fields (.declared "Order") =
    [⟨"number", .annotated (.builtin .int) [.alias "orderNumber"], none, false⟩,
      ⟨"lines", .row .list .capital (.cls (.declared "Line")), none, false⟩,
      ⟨"note", .union [.builtin .str, .builtin .noneType], none, false⟩] := by
  have hdecls : orders.declsOf (.declared "Order") = [orderDecl] := rfl
  rw [Classes.fields, hdecls]
  change (List.foldl _ [] orderDecl.fieldHints).map _ = _
  rw [fieldHints_orderDecl]
  rfl

/-- Lines and orders have fields of the forms. -/
theorem hasForm_orders : ∀ name, name = "Line" ∨ name = "Order" →
    orders.HasForm (fun name => name = "Line" ∨ name = "Order") name := by
  rintro name (rfl | rfl)
  · refine ⟨⟨lineDecl, rfl, by simp [lineDecl]⟩, .inl rfl, ?_, ?_, fun _ => ?_, fun _ => ?_,
      fun _ => ?_⟩
    all_goals simp only [fields_line, List.forall_mem_cons]
    · exact ⟨.str, .int, List.forall_mem_nil _⟩
    · decide
    · exact ⟨rfl, rfl, List.forall_mem_nil _⟩
    · exact ⟨rfl, rfl, List.forall_mem_nil _⟩
    · refine ⟨fun o h => ?_, fun o h => ?_, List.forall_mem_nil _⟩ <;> cases h
  · have hmodel : orders.isModel (.declared "Order") = true := rfl
    refine ⟨⟨orderDecl, rfl, by simp [orderDecl]⟩, .inr hmodel, ?_, ?_, fun h => ?_, fun _ => ?_,
      fun h => ?_⟩
    · simp only [fields_order, List.forall_mem_cons]
      exact ⟨.annotated _ .int, .list _ (.cls (.inl rfl)), .optional .str (.inl rfl),
        List.forall_mem_nil _⟩
    · rw [fields_order]
      decide
    · rw [hmodel] at h
      cases h
    · simp only [fields_order, List.forall_mem_cons]
      exact ⟨rfl, rfl, rfl, List.forall_mem_nil _⟩
    · rw [hmodel] at h
      cases h

/-- An order with its attributes in another order than that of the fields. -/
def order : Value :=
  .object "Order" [("lines", .row .list [.object "Line" [("sku", .text "A-1"), ("count", .int 2)]]),
    ("note", .null), ("number", .int 7)]

theorem inhabits_order : order.Inhabits orders (.cls (.declared "Order")) := by
  refine .object (by rw [fields_order]; decide) ?_
  simp only [fields_order, List.forall_mem_cons]
  refine ⟨?_, ?_, ?_, List.forall_mem_nil _⟩
  · rintro w ⟨⟩
    exact .annotated _ (.int 7)
  · rintro w ⟨⟩
    refine .list _ (List.forall_mem_singleton.mpr (.object (by rw [fields_line]; decide) ?_))
    simp only [fields_line, List.forall_mem_cons]
    refine ⟨?_, ?_, List.forall_mem_nil _⟩
    · rintro w ⟨⟩
      exact .str "A-1"
    · rintro w ⟨⟩
      exact .int 2
  · rintro w ⟨⟩
    exact .union (h := .builtin .noneType) (by simp) .null

theorem legible_order : order.Legible 1 := by
  refine .object (by decide) ?_
  simp only [List.forall_mem_cons]
  refine ⟨.row (by decide) (List.forall_mem_singleton.mpr (.object (by decide) ?_)),
    .null (by decide), legible_int (by decide) (by decide), List.forall_mem_nil _⟩
  simp only [List.forall_mem_cons]
  exact ⟨.text (by decide) _, legible_int (by decide) (by decide), List.forall_mem_nil _⟩

/-- Orders that may be absent, by text. -/
def ordersByText : Hint :=
  .dict .builtin (.builtin .str) (.union [.cls (.declared "Order"), .builtin .noneType])

/-- A session that keeps the same type with the absent value first. -/
def orderSession : Session :=
  { Session.start orders with
    adapters := [.dict .builtin (.builtin .str)
      (.union [.builtin .noneType, .cls (.declared "Order")])] }

/-- An order and the absent value are read back in a mapping. -/
theorem decode_encode_orders :
    (∃ stored, orders.encode (.mapping [("a", order), ("b", .null)]) = .ok stored ∧
      ∀ key, ∃ w, (perform (decode key stored ordersByText) orderSession).1 = .ok w ∧
        (Value.mapping [("a", order), ("b", .null)]).Matches w) := by
  refine decode_encode (s := orderSession) hasForm_orders ?form ?typed ?proper ?inhabits ?null
    ?legible ?text
  case form => exact .dict _ (.optional (.cls (.inr rfl)) (.inl rfl))
  case typed =>
    refine .dict _ (.cls _) (.union ?_)
    simp only [List.forall_mem_cons]
    exact ⟨.cls _, .cls _, List.forall_mem_nil _⟩
  case proper => exact List.forall_mem_singleton.mpr rfl
  case inhabits =>
    refine .dict _ (by decide) ?_
    simp only [List.forall_mem_cons]
    exact ⟨.union List.mem_cons_self inhabits_order,
      .union (h := .builtin .noneType) (by simp) .null, List.forall_mem_nil _⟩
  case null => simp [Value.mapping]
  case legible =>
    refine .dict (by decide) (List.forall_mem_map.mpr ?_)
    simp only [List.forall_mem_cons]
    exact ⟨legible_order, .null (by decide), List.forall_mem_nil _⟩
  case text => simp [Value.mapping]

/-! ### An invoice -/

/-- An invoice: a model whose number has a name of its own in the JSON that it is written as, but
not in the JSON that it is read of. -/
def invoiceDecl : ClassDecl where
  name := "Invoice"
  kind := .model
  annotations := [("number", .annotated (.builtin .int) [.writeAlias "n"])]

def invoices : Classes :=
  { decls := [invoiceDecl] }

theorem fields_invoice : invoices.fields (.declared "Invoice") =
    [⟨"number", .annotated (.builtin .int) [.writeAlias "n"], none, false⟩] := by
  have hhints : invoiceDecl.fieldHints = invoiceDecl.annotations := by
    have hpublic : "number".startsWith "_" = false := by decide +kernel
    simp [ClassDecl.fieldHints, invoiceDecl, hpublic]
  have hdecls : invoices.declsOf (.declared "Invoice") = [invoiceDecl] := rfl
  rw [Classes.fields, hdecls]
  change (List.foldl _ [] invoiceDecl.fieldHints).map _ = _
  rw [hhints]
  rfl

theorem hasAliasedForm_invoice :
    ∀ name, name = "Invoice" → invoices.HasAliasedForm (· = "Invoice") name := by
  rintro name rfl
  have hmodel : invoices.isModel (.declared "Invoice") = true := rfl
  refine ⟨⟨⟨invoiceDecl, rfl, by simp [invoiceDecl]⟩, .inr hmodel, ?_⟩, fun _ => ?_, fun h => ?_⟩
  · simp only [fields_invoice, List.forall_mem_singleton]
    exact .annotated _ .int
  · rw [fields_invoice]
    decide
  · rw [hmodel] at h
    cases h

theorem inhabits_invoice :
    (Value.object "Invoice" [("number", .int 7)]).Inhabits invoices
      (.cls (.declared "Invoice")) := by
  refine .object (by rw [fields_invoice]; decide) ?_
  simp only [fields_invoice, List.forall_mem_singleton]
  rintro w ⟨⟩
  exact .annotated _ (.int 7)

/-- Not every object of types of the forms comes back, even if no record has an alias: an invoice
does not. -/
theorem not_decode_encode_invoice :
    ¬ ∀ (Γ : Classes) (declared : String → Prop) (name : String) (attrs : Entries String Value),
      (∀ name, declared name → Γ.HasAliasedForm declared name ∧
        ((Γ.fields (.declared name)).map FieldDecl.jsonName).Nodup ∧
          (Γ.isModel (.declared name) = false →
            ∀ f ∈ Γ.fields (.declared name), f.jsonName = f.name)) →
        declared name → (Value.object name attrs).Inhabits Γ (.cls (.declared name)) →
          (Value.object name attrs).Legible 0 → ComesBack Γ name attrs := by
  intro h
  have hlegible : (Value.object "Invoice" [("number", .int 7)]).Legible 0 :=
    .object (by decide) (List.forall_mem_singleton.mpr (legible_int (by decide) (by decide)))
  have hback := h invoices (· = "Invoice") "Invoice" [("number", .int 7)]
    (fun name hname => ⟨hasAliasedForm_invoice name hname,
      by subst hname; rw [fields_invoice]; decide, fun hmodel => by subst hname; cases hmodel⟩)
    rfl inhabits_invoice hlegible
  refine not_comesBack hasAliasedForm_invoice rfl inhabits_invoice hlegible ?_ hback
  refine not_findsFields
    (f := ⟨"number", .annotated (.builtin .int) [.writeAlias "n"], none, false⟩) ?_ ?_ ?_ rfl
  · simp [fields_invoice]
  · decide
  · simp only [fields_invoice, List.forall_mem_singleton]
    decide

end Carryover
