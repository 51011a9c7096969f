import Carryover.Proofs.Field.Hierarchy
import Carryover.Proofs.Json.Composed
import Carryover.Proofs.Stored.Failures
import Carryover.Proofs.Stored.Soundness
import Carryover.Proofs.Stored.Survival

/-!
# Which fields are validated

A text that is read as a record gives values to its fields. If values can be read into the record,
each of them is fitted to the type of its field and conforms to it. If nothing can, because of the
type of one field, an object is made of the entries of the text as they are: each field holds what
the constructor takes for it, which is the value of its tree, whatever its type, where arguments are
taken by name. So the fields that are given conform to their types exactly if values can be read
into the record, or what is taken conforms on its own (`validates_iff`).
-/

namespace Carryover

open Entries

/-- The name of a field of a record in the texts that its objects are read of: an alias counts where
values can be read into the record, and not where objects are made of named arguments. -/
def Classes.readName (Γ : Classes) (name : String) (f : FieldDecl) : String :=
  if (Hint.cls (.declared name)).unreadable? Γ = none then f.jsonName else f.name

/-- Whether the attributes of a record conform to the types of the fields that a text gives. -/
def Classes.Validates (Γ : Classes) (name : String) (es : Entries String Json)
    (attrs : Entries String Value) : Prop :=
  ∀ f ∈ Γ.storedFields (.declared name), f.hint.meaning.IsTyped →
    ∀ j, get? es (Γ.readName name f) = some j →
      ∃ v, get? attrs f.name = some v ∧ v.Conforms Γ f.hint.meaning

/-- What an object that is made of the entries of a text has for a field that the text gives. A
parameter that takes an argument by its name takes the value of the tree as it is. -/
def Classes.taken? (Γ : Classes) (name : String) (es : Entries String Json) (f : FieldDecl)
    (j : Json) : Option Value :=
  (Γ.constructor? (.declared name)).bind fun k =>
    (k.parameters.find? (·.name == f.name)).bind fun p =>
      if p.isNamed then some j.toValue
      else k.given? (es.map fun (key, j) => (key, j.toValue)) p.toParameter

variable {Γ : Classes} {name : String} {d : ClassDecl}

/-! ### Where values can be read into the record -/

/-- A tree fits an annotation as it fits the type that the annotation stands for. -/
theorem fit_meaning (h : Hint) (j : Json) : Json.fit Γ h.meaning j = Json.fit Γ h j := by
  cases h with
  | written text meaning => rw [Hint.meaning, Json.fit]
  | _ => rfl

/-- A field of the object is found under its name. -/
theorem get?_storedFields {u : FieldDecl → Value} {f : FieldDecl}
    (hf : f ∈ Γ.storedFields (.declared name)) :
    get? ((Γ.storedFields (.declared name)).map fun f => (f.name, u f)) f.name = some (u f) := by
  have hnodup : ((Γ.storedFields (.declared name)).map FieldDecl.name).Nodup :=
    (nodup_names_fields Γ _).sublist (List.filter_sublist.map _)
  exact get?_of_mem (by simpa [keys, Function.comp_def] using hnodup)
    (List.mem_map_of_mem (f := fun f => (f.name, u f)) hf)

/-- **A record that values can be read into validates each field** that a text gives. -/
theorem validates_of_readable (hd : Γ.find? name = some d) (hkind : d.kind = .record)
    (hreadable : (Hint.cls (.declared name)).unreadable? Γ = none) {text : String} {w : Value}
    (hread : Γ.readClass (.declared name) text = .ok w) :
    ∃ es attrs, Json.parse? text = some (.object es) ∧ w = .object name attrs ∧
      Γ.Validates name es attrs := by
  obtain ⟨j, f, hj, hf, hw⟩ := (readClass_eq_ok hreadable).mp hread
  obtain ⟨es, rfl, k, hk, rfl⟩ :=
    (fit_object_eq_ok_iff hd (by simp [hkind])).mp ⟨f, hf, hw⟩
  refine ⟨es, _, hj, rfl, fun f hf ht j hj => ?_⟩
  rw [Classes.readName, if_pos hreadable] at hj
  have hfit : Json.fit Γ f.hint j = .ok (k f) := by
    have hfield := hk f (List.mem_of_mem_filter hf)
    rwa [Json.fitField, hj] at hfield
  rw [← fit_meaning] at hfit
  exact ⟨_, get?_storedFields hf, conforms_of_fit ht (within_self ht) hfit⟩

/-! ### Where nothing can be read into the record -/

/-- The constructor of a record stores the fields. -/
theorem exists_constructor?_of_record (hd : Γ.find? name = some d) (hkind : d.kind = .record) :
    ∃ k, Γ.constructor? (.declared name) = some k ∧
      ∀ f ∈ Γ.storedFields (.declared name), ∀ p ∈ k.parameters, p.name = f.name →
        p.isStored = true := by
  obtain ⟨rest, hdecls⟩ := declsOf_declared hd
  rw [Classes.constructor?, hdecls, List.findSome?_cons]
  cases hinit : d.init with
  | some ps =>
    refine ⟨_, rfl, fun f _ p hp _ => ?_⟩
    obtain ⟨e, -, rfl⟩ := List.mem_map.mp hp
    rfl
  | none =>
    simp only [hkind, beq_self_eq_true, if_true, Classes.name_of_find? hd]
    refine ⟨_, rfl, fun f hf p hp hname => ?_⟩
    obtain ⟨g, hg, rfl⟩ := List.mem_map.mp hp
    obtain ⟨hfield, hstored⟩ := List.mem_filter.mp hf
    rwa [eq_of_name_eq hg hfield hname]

/-- A record that nothing can be read into takes the entries of the text as they are. -/
theorem get?_of_readArguments (hd : Γ.find? name = some d) (hkind : d.kind = .record)
    {text : String} {w : Value} (hread : Γ.readArguments (.declared name) text = .ok w) :
    ∃ es attrs, Json.parse? text = some (.object es) ∧ w = .object name attrs ∧
      ∀ f ∈ Γ.storedFields (.declared name), ∀ j, get? es f.name = some j →
        get? attrs f.name = Γ.taken? name es f j := by
  obtain ⟨k, hk, hstored⟩ := exists_constructor?_of_record hd hkind
  unfold Classes.readArguments at hread
  split at hread
  · rename_i es hes
    cases construct_eq_ok_iff.mp hread with
    | bare h => cases hk.symm.trans h
    | bound h htaken hgiven =>
      obtain rfl := Option.some.inj (hk.symm.trans h)
      refine ⟨es, _, hes, rfl, fun f hf j hj => ?_⟩
      rw [Constructor.get?_attributes hgiven (hstored f hf), Classes.taken?, hk, Option.bind_some]
      refine Option.bind_congr fun p hp => ?_
      split_ifs with hnamed
      · refine Constructor.given?_of_isNamed hnamed ?_
        rw [eq_of_beq (List.find?_some (p := fun p : InitParameter => p.name == f.name) hp),
          get?_map, hj]
        rfl
      · rfl
  · cases hread

/-! ### Texts -/

/-- **The fields that a text gives conform to their types exactly if values can be read into the
record, or what the constructor takes as it is conforms.** -/
theorem validates_iff {s : Session} (hd : s.classes.find? name = some d) (hkind : d.kind = .record)
    {text : String} {v w : Value} (hv : v = .text text ∨ v = .jsonText text) {key : String}
    (hread : (perform (decode key v (.cls (.declared name))) s).1 = .ok w) :
    ∃ es attrs, Json.parse? text = some (.object es) ∧ w = .object name attrs ∧
      (s.classes.Validates name es attrs ↔
        (Hint.cls (.declared name)).unreadable? s.classes = none ∨
          ∀ f ∈ s.classes.storedFields (.declared name), f.hint.meaning.IsTyped →
            ∀ j, get? es f.name = some j →
              ∃ v, s.classes.taken? name es f j = some v ∧
                v.Conforms s.classes f.hint.meaning) := by
  have hclass : s.classes.readClass (.declared name) text = .ok w := by
    have hnull : v ≠ .null := by
      obtain rfl | rfl := hv <;> simp
    have hi : s.classes.isAlready v (.cls (.declared name)) = false := by
      obtain rfl | rfl := hv <;> exact isAlready_declared rfl name
    obtain ⟨text', htext, hclass⟩ :=
      (fst_perform_decode_eq_ok hnull (by simp) (by simp) hi key).mp hread
    obtain rfl | rfl := hv <;> (cases htext; exact hclass)
  cases hfault : (Hint.cls (.declared name)).unreadable? s.classes with
  | none =>
    obtain ⟨es, attrs, hes, hw, hvalidates⟩ := validates_of_readable hd hkind hfault hclass
    exact ⟨es, attrs, hes, hw, iff_of_true hvalidates (.inl rfl)⟩
  | some e =>
    -- no field is fitted to its type: the attributes are the values of the trees
    have hname (f : FieldDecl) : s.classes.readName name f = f.name := by
      simp [Classes.readName, hfault]
    have harguments : s.classes.readArguments (.declared name) text = .ok w := by
      rw [Classes.readClass, hfault] at hclass
      dsimp only at hclass
      split_ifs at hclass
      exact hclass
    obtain ⟨es, attrs, hes, hw, hvalue⟩ := get?_of_readArguments hd hkind harguments
    refine ⟨es, attrs, hes, hw, ?_⟩
    simp only [Classes.Validates, hname, reduceCtorEq, false_or]
    refine forall₂_congr fun f hf => forall_congr' fun _ => forall₂_congr fun j hj => ?_
    rw [hvalue f hf j hj]

/-! ### Bookings -/

/-- Persons: a plain class. -/
def personDecl : ClassDecl :=
  { name := "Person", kind := .plain }

/-- Bookings: a record of a number and a person. -/
def bookingDecl : ClassDecl :=
  { personDecl with
    name := "Booking"
    kind := .record
    annotations := [("count", .builtin .int), ("owner", .cls (.declared "Person"))] }

def bookings : Classes :=
  { decls := [personDecl, bookingDecl] }

/-- A booking with a text for the number. -/
def manyBooked : Entries String Json :=
  [("count", .text "many"), ("owner", .null)]

theorem fields_booking : bookings.fields (.declared "Booking") =
    [⟨"count", .builtin .int, none, false⟩, ⟨"owner", .cls (.declared "Person"), none, false⟩] :=
  rfl

/-- Nothing can be read into a booking, since nothing can be read into a person. -/
theorem unreadable?_booking :
    (Hint.cls (.declared "Booking")).unreadable? bookings = some .noSchema := by
  have hperson (room : Nat) (seen : List String) :
      (Hint.cls (.declared "Person")).schemaFailure bookings room seen = some .noSchema :=
    schemaFailure_of_plain (d := personDecl) rfl rfl rfl rfl room seen
  have hbooking : bookings.find? "Booking" = some bookingDecl := rfl
  have hrecord : bookings.isRecord (.declared "Booking") = true := rfl
  simp [Hint.unreadable?, Hint.schemaFailure, Hint.fieldsFailure, Hint.eachFailure,
    Hint.firstFailure, Hint.isReadable, hperson, hbooking, hrecord, fields_booking, bookingDecl]

theorem parse?_booking :
    Json.parse? (Json.object manyBooked).render = some (.object manyBooked) := by
  refine Json.parse?_render (.object (Nat.zero_le _) (by decide) ?_)
  simp only [manyBooked, List.forall_mem_cons]
  exact ⟨.text (by decide), .null (by decide), List.forall_mem_nil _⟩

/-- A booking is made of a text that gives a text for the number. -/
theorem decode_booking :
    (perform (decode "k" (.text (Json.object manyBooked).render) (.cls (.declared "Booking")))
      (.start bookings)).1 =
        .ok (.object "Booking" [("count", .text "many"), ("owner", .null)]) := by
  refine (fst_perform_decode_text (by simp) (by simp) (isAlready_declared rfl _) "k").mpr ?_
  change bookings.readClass (.declared "Booking") _ = _
  rw [Classes.readClass, unreadable?_booking]
  dsimp only
  rw [Classes.readArguments, parse?_booking]
  rfl

/-- Of the fields of the booking, the number does not conform as it is given. -/
theorem validates_iff_booking :
    ∃ es attrs, Json.parse? (Json.object manyBooked).render = some (.object es) ∧
      Value.object "Booking" [("count", .text "many"), ("owner", .null)] =
        .object "Booking" attrs ∧
      (bookings.Validates "Booking" es attrs ↔
        (Hint.cls (.declared "Booking")).unreadable? bookings = none ∨
          ∀ f ∈ bookings.storedFields (.declared "Booking"), f.hint.meaning.IsTyped →
            ∀ j, get? es f.name = some j →
              ∃ v, bookings.taken? "Booking" es f j = some v ∧
                v.Conforms bookings f.hint.meaning) :=
  validates_iff (s := .start bookings) (d := bookingDecl) rfl rfl (.inl rfl) decode_booking

/-- Not every field that a text gives conforms to its type. -/
theorem not_validates :
    ¬ ∀ (s : Session) (name : String) (d : ClassDecl) (key text : String)
        (es : Entries String Json) (attrs : Entries String Value),
      s.classes.find? name = some d → d.kind = .record →
        Json.parse? text = some (.object es) →
          (perform (decode key (.text text) (.cls (.declared name))) s).1 =
            .ok (.object name attrs) → s.classes.Validates name es attrs := by
  intro h
  have hbooking := h (.start bookings) "Booking" bookingDecl "k" (Json.object manyBooked).render
    manyBooked [("count", .text "many"), ("owner", .null)] rfl rfl parse?_booking decode_booking
  have hname : bookings.readName "Booking" ⟨"count", .builtin .int, none, false⟩ = "count" := by
    simp [Classes.readName, unreadable?_booking]
  obtain ⟨v, hv, hconforms⟩ := hbooking ⟨"count", .builtin .int, none, false⟩
    (by simp [Session.start, Classes.storedFields, fields_booking]) (.cls _) (.text "many")
    (by rw [Session.start, hname]; rfl)
  obtain rfl := Option.some.inj hv
  exact Bool.false_ne_true (conforms_cls_iff.mp hconforms)

end Carryover
