import Carryover.Proofs.Class.Construct
import Carryover.Proofs.Json.Objects
import Carryover.Proofs.Stored.Failures
import Carryover.Proofs.Stored.FieldNames
import Carryover.Proofs.Stored.Survival

/-!
# Objects that are made again

Nothing can be read into a plain class, so an object of one is made again of what was written of it.
If the constructor stores each argument as the attribute of its name and raises nothing, the object
comes back with the attributes it had (`decode_encode_made`), as long as these are what is written
of it (`Classes.Writes`) and the constructor takes them by name (`Classes.TakesNames`).

| object | written | made again |
| --- | --- | --- |
| with attributes that are no slots | its attributes | with these |
| of a record that nothing can be read into | its fields | with these |
| with slots alone | its text | never (`fst_perform_decode_slots`) |
| of a class with a required argument without a name | its attributes | never (`construct_ne_ok`) |
-/

namespace Carryover

open Entries

/-- Whether objects of a class are made of named arguments: nothing can be read into the class, and
its constructor, if it has one, raises nothing and stores each argument as the attribute of its
name. No leading underscore and no property of the class hides these attributes. -/
structure Classes.StoresArguments (Γ : Classes) (name : String) (params : List String) : Prop where
  noSchema : (Hint.cls (.declared name)).unreadable? Γ = some .noSchema
  noArguments : Γ.constructor? (.declared name) = none → params = []
  stores : ∀ k, Γ.constructor? (.declared name) = some k →
    k.parameters.map (·.name) = params ∧ k.fault = none ∧
      ∀ p ∈ k.parameters, p.isStored = true
  /-- The names differ, also from that of the object itself. -/
  distinct : ("self" :: params).Nodup
  isPublic : ∀ p ∈ params, p.startsWith "_" = false
  unhidden : ∀ p ∈ params, ∀ o, Γ.holding? (.declared name) p ≠ some (.property o)

/-- Whether the constructor of a class takes each argument by its name. -/
def Classes.TakesNames (Γ : Classes) (name : String) : Prop :=
  ∀ k, Γ.constructor? (.declared name) = some k → ∀ p ∈ k.parameters, p.isNamed = true

/-- Whether attributes are what is written of the objects of a class. -/
inductive Classes.Writes (Γ : Classes) (name : String) (params : List String) : Prop
  | plain (hplain : Γ.IsPlain name)
    (hopen : ∀ d ∈ Γ.declsOf (.declared name), ∀ p ∈ params, p ∉ d.slots.getD [])
  | record (hmodel : Γ.isModel (.declared name) = false)
    (hrecord : Γ.isRecord (.declared name) = true)
    (hfields : ((Γ.storedFields (.declared name)).map FieldDecl.name).Perm params)

variable {Γ : Classes} {name : String} {params : List String}

/-- A constructor that stores its arguments has each parameter once. -/
theorem Classes.StoresArguments.nodup (h : Γ.StoresArguments name params) : params.Nodup :=
  (List.nodup_cons.mp h.distinct).2

/-! ### Values that JSON has -/

theorem toValues_eq_map (js : List Json) : Json.toValues js = js.map Json.toValue := by
  induction js with
  | nil => rfl
  | cons j js ih => rw [Json.toValues, ih, List.map_cons]

theorem toEntries_eq_map (es : Entries String Json) :
    Json.toEntries es = es.map fun (k, j) => (.text k, j.toValue) := by
  induction es with
  | nil => rfl
  | cons e es ih => rw [Json.toEntries, ih, List.map_cons]

/-- The attributes that hold the values of trees. -/
def attributesOf (es : Entries String Json) : Entries String Value :=
  es.map fun (k, j) => (k, j.toValue)

/-- Attributes have the names of the entries. -/
theorem keys_attributesOf (es : Entries String Json) : keys (attributesOf es) = keys es := by
  simp [attributesOf, keys, Function.comp_def]

/-- Entries whose trees are what their values are written as are written as they are. -/
theorem mapM_attributesOf {room : Nat} {es : Entries String Json}
    (hes : ∀ e ∈ es, Γ.toJson? true room e.2.toValue = some e.2) :
    (attributesOf es).mapM (fun e => (Γ.toJson? true room e.2).map (e.1, ·)) = some es := by
  rw [attributesOf, List.mapM_map, mapM_eq_some (g := id) fun e he => by
    rw [Function.comp_apply, hes e he]
    rfl, List.map_id]

/-- A tree within the limits of the reader is what its value is written as. -/
theorem toJson?_toValue {depth room : Nat} {j : Json} (hj : j.Readable depth)
    (hroom : Json.depthLimit < depth + room) : Γ.toJson? true room j.toValue = some j := by
  induction hj generalizing room with
  | @list depth items hdepth _ ih =>
    obtain ⟨inner, rfl, hinner⟩ := Json.exists_room hdepth hroom
    have hitems : items.mapM (Γ.toJson? true inner ∘ Json.toValue) = some (items.map id) :=
      mapM_eq_some fun j hj => ih j hj hinner
    rw [Json.toValue, toValues_eq_map, Classes.toJson?, List.mapM_map, hitems, List.map_id]
    · rfl
    · simp
  | @object depth entries hdepth _ _ ih =>
    obtain ⟨inner, rfl, hinner⟩ := Json.exists_room hdepth hroom
    have hentries : (attributesOf entries).mapM
        (fun e => (Γ.toJson? true inner e.2).map (e.1, ·)) = some entries :=
      mapM_attributesOf fun e he => ih e he hinner
    have hdict := toJson?_texts (Γ := Γ) (attributesOf entries) true inner
    rw [hentries, attributesOf, List.map_map] at hdict
    rw [Json.toValue, toEntries_eq_map]
    exact hdict
  | _ hdepth =>
    obtain ⟨inner, rfl, -⟩ := Json.exists_room hdepth hroom
    rfl

/-! ### What is written -/

section Written

variable {es : Entries String Json} {room : Nat}

/-- A plain object is written with its attributes. -/
theorem toJson?_attributes (hplain : Γ.IsPlain name)
    (hopen : ∀ d ∈ Γ.declsOf (.declared name), ∀ k ∈ keys es, k ∉ d.slots.getD [])
    (hpublic : ∀ k ∈ keys es, k.startsWith "_" = false)
    (hes : ∀ e ∈ es, Γ.toJson? true room e.2.toValue = some e.2) :
    Γ.toJson? true (room + 2) (.object name (attributesOf es)) = some (.object es) := by
  have hkey {e : String × Value} (he : e ∈ attributesOf es) : e.1 ∈ keys es :=
    keys_attributesOf es ▸ List.mem_map_of_mem he
  have hshown : publicAttrs (Γ.openAttrs name (attributesOf es)) = attributesOf es := by
    have hslots : Γ.openAttrs name (attributesOf es) = attributesOf es :=
      List.filter_eq_self.mpr fun e he => by
        simpa [Classes.hasSlot] using fun d hd => hopen d hd e.1 (hkey he)
    rw [hslots]
    exact List.filter_eq_self.mpr fun e he => by simp [hpublic e.1 (hkey he)]
  rw [toJson?_plainObject hplain, hshown, mapM_attributesOf hes]
  rfl

/-- A record is written with its attributes in the order of its fields. -/
theorem toJson?_fields (hmodel : Γ.isModel (.declared name) = false)
    (hrecord : Γ.isRecord (.declared name) = true)
    (hnames : ((Γ.storedFields (.declared name)).map FieldDecl.name).Perm (keys es))
    (hunhidden : ∀ k ∈ keys es, ∀ o, Γ.holding? (.declared name) k ≠ some (.property o))
    (hdistinct : (keys es).Nodup)
    (hes : ∀ e ∈ es, Γ.toJson? true room e.2.toValue = some e.2) :
    ∃ written : Entries String Json, written.Perm es ∧
      Γ.toJson? true (room + 1) (.object name (attributesOf es)) = some (.object written) := by
  have hfield : ∀ f ∈ Γ.storedFields (.declared name), ∃ j, get? es f.name = some j := fun f hf =>
    mem_keys_iff.mp (hnames.mem_iff.mp (List.mem_map_of_mem hf))
  choose! j hj using hfield
  refine ⟨(Γ.storedFields (.declared name)).map fun f => (f.name, j f), ?_, ?_⟩
  · refine perm_of_keys_perm hdistinct (by simpa [keys, Function.comp_def] using hnames) ?_
    intro e he
    obtain ⟨f, hf, rfl⟩ := List.mem_map.mp he
    exact mem_of_get? (hj f hf)
  · refine toJson?_recordFields hmodel hrecord (w := fun f => (j f).toValue) (fun f hf => ?_)
      (fun f hf => ?_) fun f hf => hes _ (mem_of_get? (hj f hf))
    · exact hunhidden f.name (List.mem_map_of_mem (mem_of_get? (hj f hf)))
    · rw [attributesOf, get?_map, hj f hf]
      rfl

/-- **Of an object that is made again all attributes are written**, those of a record in the order
of its fields. -/
theorem toJson?_of_writes (hmade : Γ.StoresArguments name params) (hwrites : Γ.Writes name params)
    (hnames : (keys es).Perm params) {depth : Nat} (hes : ∀ e ∈ es, e.2.Readable depth)
    (hroom : Json.depthLimit < depth + room) :
    ∃ written : Entries String Json, written.Perm es ∧
      Γ.toJson? true (room + 2) (.object name (attributesOf es)) = some (.object written) := by
  have hparam {k : String} (hk : k ∈ keys es) : k ∈ params := hnames.mem_iff.mp hk
  cases hwrites with
  | plain hplain hopen =>
    exact ⟨es, .refl es, toJson?_attributes hplain (fun d hd k hk => hopen d hd k (hparam hk))
      (fun k hk => hmade.isPublic k (hparam hk)) fun e he => toJson?_toValue (hes e he) hroom⟩
  | record hmodel hrecord hfields =>
    exact toJson?_fields hmodel hrecord (hfields.trans hnames.symm)
      (fun k hk => hmade.unhidden k (hparam hk)) (hnames.nodup_iff.mpr hmade.nodup)
      fun e he => toJson?_toValue (hes e he) (by omega)

end Written

/-! ### What is made -/

/-- An argument is taken if a parameter takes it by its name. -/
theorem Constructor.refusal?_eq_none {k : Constructor} {arguments : Entries String Value}
    {p : InitParameter} (hp : p ∈ k.parameters) (hnamed : p.isNamed = true)
    (hself : p.name ≠ "self") : k.refusal? arguments p.name = none := by
  have hleft : Entries.has (k.leftOver arguments) p.name = false := by
    rw [Entries.has, Option.isSome_eq_false_iff, Option.isNone_iff_eq_none, get?_eq_none_iff]
    intro hkey
    obtain ⟨e, he, hname⟩ := List.mem_map.mp hkey
    have hnone := (List.mem_filter.mp he).2
    simp only [Bool.not_eq_true', List.any_eq_false] at hnone
    exact hnone p hp (by simp [hnamed, hname])
  simp [refusal?, hself, hleft]

/-- **A constructor that stores its arguments, and takes them by name, makes an object with them as
attributes.** -/
theorem construct_of_storesArguments (hmade : Γ.StoresArguments name params)
    (hnamed : Γ.TakesNames name) {arguments : Entries String Value}
    (hnames : (keys arguments).Perm params) :
    ∃ attrs : Entries String Value, attrs.Perm arguments ∧
      Γ.construct (.declared name) arguments = .ok (.object name attrs) := by
  cases hk : Γ.constructor? (.declared name) with
  | none =>
    obtain rfl := hmade.noArguments hk
    obtain rfl : arguments = [] := by simpa [keys] using hnames
    exact ⟨[], .nil, construct_eq_ok_iff.mpr (.bare hk rfl)⟩
  | some k =>
    obtain ⟨rfl, hfault, hstored⟩ := hmade.stores k hk
    have hnamed := hnamed k hk
    have hvalue : ∀ p ∈ k.parameters, ∃ v, get? arguments p.name = some v := fun p hp =>
      mem_keys_iff.mp (hnames.mem_iff.mpr (List.mem_map_of_mem hp))
    choose! v hv using hvalue
    have hgiven : ∀ p ∈ k.parameters, k.given? arguments p.toParameter = some (v p) := fun p hp =>
      Constructor.given?_of_isNamed (hnamed p hp) (hv p hp)
    have hattrs : k.attributes arguments = k.parameters.map fun p => (p.name, v p) := by
      rw [Constructor.attributes, List.filter_eq_self.mpr hstored, ← List.filterMap_eq_map]
      exact List.filterMap_congr fun p hp => by simp [hgiven p hp]
    refine ⟨k.attributes arguments, ?_, construct_eq_ok_iff.mpr (.bound hk (fun e he => ?_)
      (fun p hp => by simp [hgiven p hp]) hfault)⟩
    · rw [hattrs]
      refine perm_of_keys_perm (hnames.nodup_iff.mpr hmade.nodup)
        (by simpa [keys, Function.comp_def] using hnames.symm) ?_
      intro e he
      obtain ⟨p, hp, rfl⟩ := List.mem_map.mp he
      exact mem_of_get? (hv p hp)
    · obtain ⟨p, hp, hname⟩ := List.mem_map.mp (hnames.mem_iff.mp (List.mem_map_of_mem he))
      have hself := (List.nodup_cons.mp hmade.distinct).1
      rw [← hname]
      exact Constructor.refusal?_eq_none hp (hnamed p hp) fun h =>
        hself (h ▸ List.mem_map_of_mem (f := fun p : InitParameter => p.name) hp)

/-- **No object is made of named arguments where one is required that stands for a position.** -/
theorem construct_ne_ok {c : ClassName} {k : Constructor} (hk : Γ.constructor? c = some k)
    {p : InitParameter} (hp : p ∈ k.parameters) (hkind : p.kind = .positionOnly)
    (hdefault : p.default = none) (arguments : Entries String Value) (w : Value) :
    Γ.construct c arguments ≠ .ok w := by
  intro h
  cases construct_eq_ok_iff.mp h with
  | bare hnone => cases hk.symm.trans hnone
  | bound hk' _ hgiven =>
    obtain rfl := Option.some.inj (hk.symm.trans hk')
    have hp := hgiven p hp
    rw [Constructor.given?, hkind] at hp
    exact Option.isSome_iff_ne_none.mp hp hdefault

/-! ### Objects -/

/-- An object is made of a text, or the text is refused, where nothing can be read into a class. -/
theorem fst_perform_decode_noSchema {s : Session}
    (hnone : (Hint.cls (.declared name)).unreadable? s.classes = some .noSchema)
    (key text : String) :
    (perform (decode key (.jsonText text) (.cls (.declared name))) s).1 =
      (s.classes.readArguments (.declared name) text).mapError
        (s.classes.readFailure key (.jsonText text) (.cls (.declared name))) := by
  rw [perform_decode (by simp), checkTarget_cls (by simp)]
  dsimp only
  rw [isAlready_declared rfl, if_neg (by simp), if_neg (by simp [Hint.isText]), perform_bind,
    perform_liftExcept]
  change Except.mapError _ (perform (readText _ text) s).1 = _
  rw [fst_perform_readText, readType_of_noSchema hnone]

/-- **An object with slots alone is stored as its text, of which no object is made.** -/
theorem fst_perform_decode_slots
    (hnone : (Hint.cls (.declared name)).unreadable? Γ = some .noSchema)
    (hmodel : Γ.isModel (.declared name) = false) (hrecord : Γ.isRecord (.declared name) = false)
    (hopen : Γ.hasOpenAttrs (.declared name) = false) (attrs : Entries String Value) :
    ∃ stored, Γ.encode (.object name attrs) = .ok stored ∧
      ∀ (key : String) (s : Session), s.classes = Γ →
        (perform (decode key stored (.cls (.declared name))) s).1 =
          .error (.conversion key stored.classOf.qualified
            ((Hint.cls (.declared name)).render Γ) .unfit) := by
  have hjson : Γ.jsonTextOf (.object name attrs) =
      .ok (Json.text (Γ.opaqueText (.object name attrs))).render := by
    rw [Classes.jsonTextOf, Classes.json?, Classes.writingRoom,
      toJson?_slotObject hmodel hrecord hopen]
  refine ⟨_, by rw [encode_of_not_isPrimitive (by simp) rfl, hjson]; rfl, ?_⟩
  rintro key s rfl
  rw [fst_perform_decode_noSchema hnone, Classes.readArguments,
    Json.parse?_render (.text (Nat.zero_le _))]
  rfl

/-- **An object whose class requires an argument that stands for a position does not come back.** -/
theorem fst_perform_decode_positionOnly {s : Session}
    (hnone : (Hint.cls (.declared name)).unreadable? s.classes = some .noSchema) {k : Constructor}
    (hk : s.classes.constructor? (.declared name) = some k) {p : InitParameter}
    (hp : p ∈ k.parameters) (hkind : p.kind = .positionOnly) (hdefault : p.default = none)
    {attrs : Entries String Value} {stored : Value}
    (hstored : s.classes.encode (.object name attrs) = .ok stored) (key : String) (w : Value) :
    (perform (decode key stored (.cls (.declared name))) s).1 ≠ .ok w := by
  rw [encode_of_not_isPrimitive (by simp) rfl] at hstored
  obtain ⟨text, -, rfl⟩ := exists_of_map_eq_ok hstored
  rw [fst_perform_decode_noSchema hnone, Classes.readArguments]
  split
  · intro h
    exact construct_ne_ok hk hp hkind hdefault _ w (mapError_eq_ok.mp h)
  · intro h
    cases h

/-- **An object comes back with its attributes** if it is made of arguments that are taken by name,
its attributes are what is written of it, and they hold values within the limits of the reader. -/
theorem decode_encode_made (hmade : Γ.StoresArguments name params) (hnamed : Γ.TakesNames name)
    (hwrites : Γ.Writes name params) {es : Entries String Json} (hnames : (keys es).Perm params)
    (hes : ∀ e ∈ es, e.2.Readable 1) :
    ∃ stored, Γ.encode (.object name (attributesOf es)) = .ok stored ∧
      ∀ (key : String) (s : Session), s.classes = Γ →
        ∃ attrs : Entries String Value, attrs.Perm (attributesOf es) ∧
          (perform (decode key stored (.cls (.declared name))) s).1 =
            .ok (.object name attrs) := by
  have hroom : Json.depthLimit < 1 + 253 := by decide
  obtain ⟨written, hperm, hwritten⟩ := toJson?_of_writes hmade hwrites hnames hes hroom
  have hkeys : (keys written).Perm params := (hperm.map Prod.fst).trans hnames
  have hreadable : (Json.object written).Readable 0 :=
    .object (Nat.zero_le _) (hkeys.nodup_iff.mpr hmade.nodup) fun e he =>
      hes e (hperm.mem_iff.mp he)
  have hjson :
      Γ.jsonTextOf (.object name (attributesOf es)) = .ok (Json.object written).render := by
    rw [Classes.jsonTextOf, Classes.json?, Classes.writingRoom, hwritten]
  refine ⟨_, by rw [encode_of_not_isPrimitive (by simp) rfl, hjson]; rfl, ?_⟩
  rintro key s rfl
  have harguments : (keys (attributesOf written)).Perm params := by rwa [keys_attributesOf]
  obtain ⟨attrs, hattrs, hmake⟩ := construct_of_storesArguments hmade hnamed harguments
  refine ⟨attrs, hattrs.trans (hperm.map _), ?_⟩
  rw [fst_perform_decode_noSchema hmade.noSchema, Classes.readArguments,
    Json.parse?_render hreadable]
  exact congrArg _ hmake

/-! ### Tickets, seats and passes -/

/-- Plain classes whose constructors store their arguments: a ticket has an attribute for each, a
seat has a slot, a pass takes its argument by position. -/
def venue : Classes :=
  { decls := [
      { name := "Ticket", kind := .plain
        init := some [⟨"price", .either, none, none⟩, ⟨"seats", .nameOnly, none, none⟩] },
      { name := "Seat", kind := .plain, init := some [⟨"row", .either, none, none⟩]
        slots := some ["row"], shown := some "seat" },
      { name := "Pass", kind := .plain, init := some [⟨"row", .positionOnly, none, none⟩] }] }

theorem storesArguments_ticket : venue.StoresArguments "Ticket" ["price", "seats"] where
  noSchema := unreadable?_of_plain rfl rfl rfl rfl
  noArguments h := by cases h
  stores k hk := by
    cases hk
    exact ⟨rfl, rfl, by decide⟩
  distinct := by decide
  isPublic := by decide +kernel
  unhidden p hp o := by
    obtain rfl | rfl : p = "price" ∨ p = "seats" := by simpa using hp
    all_goals exact nofun

theorem storesArguments_seat : venue.StoresArguments "Seat" ["row"] where
  noSchema := unreadable?_of_plain rfl rfl rfl rfl
  noArguments h := by cases h
  stores k hk := by
    cases hk
    exact ⟨rfl, rfl, by decide⟩
  distinct := by decide
  isPublic := by decide +kernel
  unhidden p hp o := by
    obtain rfl : p = "row" := by simpa using hp
    exact nofun

theorem storesArguments_pass : venue.StoresArguments "Pass" ["row"] where
  noSchema := unreadable?_of_plain rfl rfl rfl rfl
  noArguments h := by cases h
  stores k hk := by
    cases hk
    exact ⟨rfl, rfl, by decide⟩
  distinct := by decide
  isPublic := by decide +kernel
  unhidden p hp o := by
    obtain rfl : p = "row" := by simpa using hp
    exact nofun

/-- A class takes arguments by name if each of its parameters does. -/
theorem takesNames_of_constructor? {k : Constructor}
    (hk : Γ.constructor? (.declared name) = some k)
    (hnamed : ∀ p ∈ k.parameters, p.isNamed = true) : Γ.TakesNames name := by
  intro k' hk'
  rwa [← Option.some.inj (hk.symm.trans hk')]

/-- A ticket with rows of seats comes back, its attributes in the order of the parameters. -/
theorem decode_encode_made_ticket :
    ∃ stored, venue.encode (.object "Ticket" (attributesOf
        [("seats", .object [("A", .list [.int 1, .null])]), ("price", .int 7)])) = .ok stored ∧
      ∀ (key : String) (s : Session), s.classes = venue →
        ∃ attrs : Entries String Value, attrs.Perm (attributesOf
            [("seats", .object [("A", .list [.int 1, .null])]), ("price", .int 7)]) ∧
          (perform (decode key stored (.cls (.declared "Ticket"))) s).1 =
            .ok (.object "Ticket" attrs) := by
  refine decode_encode_made storesArguments_ticket (takesNames_of_constructor? rfl (by decide))
    (.plain ⟨rfl, rfl, rfl⟩ (by decide)) (by decide) ?_
  have hseats : (Json.list [.int 1, .null]).Readable 2 :=
    .list (by decide) (by
      simp only [List.forall_mem_cons]
      exact ⟨.int (by decide) (by decide), .null (by decide), List.forall_mem_nil _⟩)
  simp only [List.forall_mem_cons]
  exact ⟨.object (by decide) (by decide) (List.forall_mem_singleton.mpr hseats),
    .int (by decide) (by decide), List.forall_mem_nil _⟩

/-- Not every object whose class stores the arguments comes back: neither is it enough that these
are taken by name, as a seat shows, nor that they are written, as a pass shows. -/
theorem not_decode_encode_made :
    (¬ ∀ (Γ : Classes) (name : String) (params : List String) (es : Entries String Json),
      Γ.StoresArguments name params → Γ.TakesNames name →
        (keys es).Perm params → (∀ e ∈ es, e.2.Readable 1) →
          ∃ stored, Γ.encode (.object name (attributesOf es)) = .ok stored ∧
            ∀ (key : String) (s : Session), s.classes = Γ →
              ∃ attrs : Entries String Value, attrs.Perm (attributesOf es) ∧
                (perform (decode key stored (.cls (.declared name))) s).1 =
                  .ok (.object name attrs)) ∧
    ¬ ∀ (Γ : Classes) (name : String) (params : List String) (es : Entries String Json),
      Γ.StoresArguments name params → Γ.Writes name params →
        (keys es).Perm params → (∀ e ∈ es, e.2.Readable 1) →
          ∃ stored, Γ.encode (.object name (attributesOf es)) = .ok stored ∧
            ∀ (key : String) (s : Session), s.classes = Γ →
              ∃ attrs : Entries String Value, attrs.Perm (attributesOf es) ∧
                (perform (decode key stored (.cls (.declared name))) s).1 =
                  .ok (.object name attrs) := by
  have hreadable : ∀ e ∈ [("row", Json.int 7)], e.2.Readable 1 :=
    List.forall_mem_singleton.mpr (.int (by decide) (by decide))
  constructor
  · intro h
    obtain ⟨stored, hstored, hmade⟩ := h venue "Seat" ["row"] [("row", .int 7)]
      storesArguments_seat (takesNames_of_constructor? rfl (by decide)) (.refl _) hreadable
    obtain ⟨attrs, -, hok⟩ := hmade "k" (.start venue) rfl
    obtain ⟨stored', hstored', hfails⟩ := fst_perform_decode_slots
      storesArguments_seat.noSchema rfl rfl rfl (attributesOf [("row", .int 7)])
    obtain rfl := Except.ok.inj (hstored.symm.trans hstored')
    cases (hfails "k" (.start venue) rfl).symm.trans hok
  · intro h
    obtain ⟨stored, hstored, hmade⟩ := h venue "Pass" ["row"] [("row", .int 7)]
      storesArguments_pass (.plain ⟨rfl, rfl, rfl⟩ (by decide)) (.refl _) hreadable
    obtain ⟨attrs, -, hok⟩ := hmade "k" (.start venue) rfl
    exact fst_perform_decode_positionOnly storesArguments_pass.noSchema rfl List.mem_cons_self rfl
      rfl hstored "k" _ hok

end Carryover
