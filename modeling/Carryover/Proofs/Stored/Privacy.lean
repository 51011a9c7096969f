import Carryover.Proofs.Context.Change
import Carryover.Proofs.Json.Objects
import Mathlib.Data.List.Forall2

/-!
# Attributes that stay private

A plain object is written with those of its attributes alone whose names have no leading underscore.
So two values that are one but for other attributes of the plain objects in them
(`Value.AlikeInPublic`) have one stored form, or none (`encode_eq_of_alikeInPublic`), however deep
the plain objects stand and whatever the other attributes hold.

| part of a value | what is compared |
| --- | --- |
| row, mapping | the items, the keys and the values |
| member of an enumeration | its value |
| iterator | which one it is, and what it has still to give |
| record, model | all attributes |
| plain object | the attributes without a leading underscore |
-/

namespace Carryover

open Entries

/-- Whether two values are one but for the attributes with a leading underscore of the plain objects
in them. -/
inductive Value.AlikeInPublic (Γ : Classes) : Value → Value → Prop
  | same (v : Value) : AlikeInPublic Γ v v
  | row (form : RowForm) {vs ws : List Value} (hlength : vs.length = ws.length)
      (h : ∀ p ∈ vs.zip ws, AlikeInPublic Γ p.1 p.2) :
      AlikeInPublic Γ (.row form vs) (.row form ws)
  | dict {es fs : List (Value × Value)} (hlength : es.length = fs.length)
      (hkeys : ∀ p ∈ es.zip fs, AlikeInPublic Γ p.1.1 p.2.1)
      (hvalues : ∀ p ∈ es.zip fs, AlikeInPublic Γ p.1.2 p.2.2) :
      AlikeInPublic Γ (.dict es) (.dict fs)
  | member (cls : String) (mixin : Mixin) (name : String) {v w : Value}
      (h : AlikeInPublic Γ v w) :
      AlikeInPublic Γ (.member cls mixin name v) (.member cls mixin name w)
  | iterator (kind : String) (mark : Nat) {vs ws : List Value}
      (hlength : vs.length = ws.length) (h : ∀ p ∈ vs.zip ws, AlikeInPublic Γ p.1 p.2) :
      AlikeInPublic Γ (.iterator kind mark vs) (.iterator kind mark ws)
  | number (mark mark' : Nat) {cls : String} {attrs attrs' : Entries String Value}
      (h : AlikeInPublic Γ (.object cls attrs) (.object cls attrs')) :
      AlikeInPublic Γ (.number mark cls attrs) (.number mark' cls attrs')
  | plain {cls : String} (hplain : Γ.IsPlain cls) {attrs attrs' : Entries String Value}
      (hnames : keys (publicAttrs attrs) = keys (publicAttrs attrs'))
      (h : ∀ p ∈ (publicAttrs attrs).zip (publicAttrs attrs'), AlikeInPublic Γ p.1.2 p.2.2) :
      AlikeInPublic Γ (.object cls attrs) (.object cls attrs')
  | other {cls : String} (hother : ¬ Γ.IsPlain cls) {attrs attrs' : Entries String Value}
      (hnames : keys attrs = keys attrs')
      (h : ∀ p ∈ attrs.zip attrs', AlikeInPublic Γ p.1.2 p.2.2) :
      AlikeInPublic Γ (.object cls attrs) (.object cls attrs')

/-- Whether entries have the same keys in the same order, with values that match. -/
def Entries.MatchBy (R : Value → Value → Prop) :
    Entries String Value → Entries String Value → Prop :=
  List.Forall₂ fun e f => e.1 = f.1 ∧ R e.2 f.2

variable {Γ : Classes}

/-! ### Lists whose members match -/

section Matching

variable {α β γ : Type}

/-- Lists of one length are related if their pairs are. -/
theorem forall₂_of_zip {R : α → β → Prop} {xs : List α} {ys : List β}
    (hlength : xs.length = ys.length) (h : ∀ p ∈ xs.zip ys, R p.1 p.2) : List.Forall₂ R xs ys :=
  List.forall₂_iff_zip.mpr ⟨hlength, fun hmem => h _ hmem⟩

/-- What is made of related items is the same. -/
theorem map_eq_of_forall₂ {f : α → γ} {g : β → γ} {xs : List α} {ys : List β}
    (h : List.Forall₂ (fun x y => f x = g y) xs ys) : xs.map f = ys.map g := by
  induction h with
  | nil => rfl
  | cons hxy _ ih => rw [List.map_cons, List.map_cons, hxy, ih]

/-- Steps that come to the same on matching members come to the same on the lists. -/
theorem mapM_eq_of_forall₂ {f : α → Option γ} {g : β → Option γ} {xs : List α} {ys : List β}
    (h : List.Forall₂ (fun x y => f x = g y) xs ys) : xs.mapM f = ys.mapM g := by
  induction h with
  | nil => rfl
  | cons hxy _ ih => rw [List.mapM_cons, List.mapM_cons, hxy, ih]

/-- What is made of related items is the same, those left out that nothing is made of. -/
theorem filterMapM_eq_of_forall₂ {f : α → Option (Option γ)} {g : β → Option (Option γ)}
    {xs : List α} {ys : List β} (h : List.Forall₂ (fun x y => f x = g y) xs ys) :
    xs.filterMapM f = ys.filterMapM g := by
  induction h with
  | nil => rfl
  | cons hxy _ ih => rw [List.filterMapM_cons, List.filterMapM_cons, hxy, ih]

end Matching

namespace Entries.MatchBy

variable {R S : Value → Value → Prop} {es fs : Entries String Value}

/-- Entries with the same keys match if their values do one by one. -/
theorem of_zip (hkeys : keys es = keys fs) (h : ∀ p ∈ es.zip fs, R p.1.2 p.2.2) :
    MatchBy R es fs := by
  have hlength : es.length = fs.length := by simpa [keys] using congrArg List.length hkeys
  refine forall₂_of_zip hlength fun p hp => ⟨?_, h p hp⟩
  obtain ⟨i, hi, rfl⟩ := List.mem_iff_getElem.mp hp
  simp only [List.length_zip, Nat.lt_min] at hi
  have hkey : (keys es)[i]? = (keys fs)[i]? := by rw [hkeys]
  simpa [keys, hi.1, hi.2] using hkey

/-- Of entries that match, those under the keys of a kind match. -/
theorem filter (h : MatchBy R es fs) (p : String → Bool) :
    MatchBy R (es.filter fun e => p e.1) (fs.filter fun e => p e.1) := by
  induction h with
  | nil => exact .nil
  | cons hef _ ih =>
    rw [List.filter_cons, List.filter_cons, hef.1]
    split_ifs
    · exact .cons hef ih
    · exact ih

/-- Under each key there are values that match, or none. -/
theorem get?_rel (h : MatchBy R es fs) (k : String) : Option.Rel R (get? es k) (get? fs k) := by
  induction h with
  | nil => exact .none
  | @cons e f es fs hef _ ih =>
    obtain ⟨k', v⟩ := e
    obtain ⟨k'', w⟩ := f
    obtain ⟨rfl, hvw⟩ := hef
    by_cases hk : k' = k
    · simpa [get?, hk] using hvw
    · simpa [get?, hk] using ih

end Entries.MatchBy

/-! ### Keys -/

theorem shownItems_eq_map (vs : List Value) : Γ.shownItems vs = vs.map Γ.shown := by
  induction vs with
  | nil => rfl
  | cons v vs ih => rw [Classes.shownItems, ih, List.map_cons]

theorem shownEntries_eq_map (es : List (Value × Value)) :
    Γ.shownEntries es = es.map fun e => Γ.shown e.1 ++ ": " ++ Γ.shown e.2 := by
  induction es with
  | nil => rfl
  | cons e es ih => rw [Classes.shownEntries, ih, List.map_cons]

theorem shownAttrs_eq_map (attrs : Entries String Value) :
    Γ.shownAttrs attrs = attrs.map fun e => (e.1, Γ.shown e.2) := by
  induction attrs with
  | nil => rfl
  | cons e attrs ih => rw [Classes.shownAttrs, ih, List.map_cons]

/-- Attributes are shown alike if their values are. -/
theorem shownAttrs_eq_of_matchBy {attrs attrs' : Entries String Value}
    (h : MatchBy (fun v w => Γ.shown v = Γ.shown w) attrs attrs') :
    Γ.shownAttrs attrs = Γ.shownAttrs attrs' := by
  rw [shownAttrs_eq_map, shownAttrs_eq_map]
  exact map_eq_of_forall₂ (h.imp fun e f hef => by rw [hef.1, hef.2])

/-- The text of a plain object tells nothing of its attributes. -/
theorem objectShown_of_isPlain {cls : String} (hplain : Γ.IsPlain cls)
    (shown : Entries String String) : Γ.objectShown cls shown = "<m." ++ cls ++ " object>" := by
  rw [Classes.objectShown, hplain.1, hplain.2.1]
  rfl

/-- Values that are alike in public have one text among other values. -/
theorem shown_eq_of_alikeInPublic {v w : Value} (h : v.AlikeInPublic Γ w) :
    Γ.shown v = Γ.shown w := by
  induction h with
  | same v => rfl
  | row form hlength _ ih =>
    rw [Classes.shown, Classes.shown, shownItems_eq_map, shownItems_eq_map,
      map_eq_of_forall₂ (forall₂_of_zip hlength ih)]
  | dict hlength _ _ ihkeys ihvalues =>
    rw [Classes.shown, Classes.shown, shownEntries_eq_map, shownEntries_eq_map]
    congr 3
    exact map_eq_of_forall₂ (forall₂_of_zip hlength fun p hp => by
      rw [ihkeys p hp, ihvalues p hp])
  | member cls mixin name _ ih => rw [Classes.shown, Classes.shown, ih]
  | iterator => rw [Classes.shown, Classes.shown]
  | number mark mark' _ ih => exact ih
  | plain hplain _ _ _ =>
    rw [Classes.shown, Classes.shown, objectShown_of_isPlain hplain, objectShown_of_isPlain hplain]
  | other _ hnames _ ih =>
    rw [Classes.shown, Classes.shown, shownAttrs_eq_of_matchBy (.of_zip hnames ih)]

theorem keyTexts?_eq_mapM (plainObjects : Bool) (vs : List Value) :
    Γ.keyTexts? plainObjects vs = vs.mapM (Γ.keyText? plainObjects) := by
  induction vs with
  | nil => rfl
  | cons v vs ih =>
    rw [Classes.keyTexts?, List.mapM_cons, ih]
    rfl

/-- The text of an object depends on its attributes by their texts alone. -/
theorem opaqueText_object_congr {cls : String} {attrs attrs' : Entries String Value}
    (h : Γ.shownAttrs attrs = Γ.shownAttrs attrs') :
    Γ.opaqueText (.object cls attrs) = Γ.opaqueText (.object cls attrs') := by
  simp only [Classes.opaqueText, Classes.plain, Classes.shown, h]

/-- Keys that are alike in public are written as one text, or refused. -/
theorem keyText?_eq_of_alikeInPublic {v w : Value} (h : v.AlikeInPublic Γ w)
    (plainObjects : Bool) : Γ.keyText? plainObjects v = Γ.keyText? plainObjects w := by
  induction h with
  | same v => rfl
  | row form hlength _ ih =>
    cases form with
    | tuple =>
      rw [Classes.keyText?, Classes.keyText?, keyTexts?_eq_mapM, keyTexts?_eq_mapM,
        mapM_eq_of_forall₂ (forall₂_of_zip hlength ih)]
    | _ => simp [Classes.keyText?]
  | dict => rw [Classes.keyText?, Classes.keyText?]
  | member cls mixin name _ ih => rw [Classes.keyText?, Classes.keyText?, ih]
  | iterator => rw [Classes.keyText?, Classes.keyText?]
  | number mark mark' _ ih => exact ih
  | plain hplain _ _ _ => simp [Classes.keyText?, hplain.2.2]
  | other _ hnames h _ =>
    have hshown := shownAttrs_eq_of_matchBy (.of_zip hnames fun p hp =>
      shown_eq_of_alikeInPublic (h p hp))
    rw [Classes.keyText?, Classes.keyText?, opaqueText_object_congr hshown]

/-! ### Objects -/

section Objects

variable {room : Nat} {cls : String} {attrs attrs' : Entries String Value}

/-- Whether two values are written alike. -/
def WrittenAlike (Γ : Classes) (room : Nat) (v w : Value) : Prop :=
  Γ.toJson? true room v = Γ.toJson? true room w

/-- What a field shows of objects whose attributes are written alike is written alike. -/
theorem fieldValue?_bind_eq (h : MatchBy (WrittenAlike Γ room) attrs attrs') (name : String) :
    (Γ.fieldValue? (.object cls attrs) name).bind (Γ.toJson? true room) =
      (Γ.fieldValue? (.object cls attrs') name).bind (Γ.toJson? true room) := by
  have hrel := h.get?_rel name
  unfold Classes.fieldValue? Classes.declaredAttribute?
  dsimp only
  generalize get? attrs name = value at hrel ⊢
  generalize get? attrs' name = value' at hrel ⊢
  -- the class itself decides whether the objects show an attribute of their own
  match Γ.holding? (.declared cls) name with
  | some (.property (.gives w)) => rfl
  | some (.property (.raises f)) => rfl
  | some .slot | none | some (.attribute w) =>
    cases hrel with
    | none => rfl
    | some hvw => exact hvw

/-- Objects that are not plain are written alike if all their attributes are. -/
theorem writtenAlike_object (hother : ¬ Γ.IsPlain cls)
    (hshown : Γ.shownAttrs attrs = Γ.shownAttrs attrs')
    (h : MatchBy (WrittenAlike Γ room) attrs attrs') :
    WrittenAlike Γ (room + 1) (.object cls attrs) (.object cls attrs') := by
  unfold WrittenAlike
  cases hmodel : Γ.isModel (.declared cls) with
  | true =>
    rw [toJson?_modelObject hmodel, toJson?_modelObject hmodel]
    refine congrArg _ (filterMapM_eq_of_forall₂ (h.imp ?_))
    rintro ⟨name, v⟩ ⟨_, w⟩ ⟨rfl, hvw⟩
    rw [WrittenAlike] at hvw
    simp only [Classes.modelEntry?, hvw]
  | false =>
    cases hrecord : Γ.isRecord (.declared cls) with
    | true =>
      rw [toJson?_recordObject hmodel hrecord, toJson?_recordObject hmodel hrecord]
      simp only [fieldValue?_bind_eq h]
    | false =>
      have hopen : Γ.hasOpenAttrs (.declared cls) = false := by
        simpa [Classes.IsPlain, hmodel, hrecord] using hother
      cases room with
      | zero =>
        rw [toJson?_one_of_not_known hmodel hrecord, toJson?_one_of_not_known hmodel hrecord]
      | succ room =>
        rw [toJson?_slotObject hmodel hrecord hopen, toJson?_slotObject hmodel hrecord hopen,
          opaqueText_object_congr hshown]

/-- The attributes that are no slots are chosen among those without a leading underscore as well as
before. -/
theorem publicAttrs_openAttrs (attrs : Entries String Value) :
    publicAttrs (Γ.openAttrs cls attrs) = Γ.openAttrs cls (publicAttrs attrs) :=
  List.filter_comm ..

/-- Plain objects are written alike if their attributes without a leading underscore are. -/
theorem writtenAlike_plain (hplain : Γ.IsPlain cls)
    (h : ∀ room, MatchBy (WrittenAlike Γ room) (publicAttrs attrs) (publicAttrs attrs')) :
    WrittenAlike Γ (room + 1) (.object cls attrs) (.object cls attrs') := by
  unfold WrittenAlike
  cases room with
  | zero =>
    rw [toJson?_one_of_not_known hplain.1 hplain.2.1, toJson?_one_of_not_known hplain.1 hplain.2.1]
  | succ room =>
    rw [toJson?_plainObject hplain, toJson?_plainObject hplain, publicAttrs_openAttrs,
      publicAttrs_openAttrs]
    have hshown : MatchBy (WrittenAlike Γ room) (Γ.openAttrs cls (publicAttrs attrs))
        (Γ.openAttrs cls (publicAttrs attrs')) :=
      (h room).filter fun name => !Γ.hasSlot cls name
    refine congrArg _ (mapM_eq_of_forall₂ (hshown.imp ?_))
    rintro ⟨name, v⟩ ⟨_, w⟩ ⟨rfl, hvw⟩
    exact congrArg _ hvw

end Objects

/-! ### Values -/

/-- Rows of one form are written alike if their items are. -/
theorem writtenAlike_row (form : RowForm) {vs ws : List Value}
    (h : ∀ room, List.Forall₂ (WrittenAlike Γ room) vs ws) (room : Nat) :
    WrittenAlike Γ room (.row form vs) (.row form ws) := by
  have hitems (room : Nat) : vs.mapM (Γ.toJson? true room) = ws.mapM (Γ.toJson? true room) :=
    mapM_eq_of_forall₂ (h room)
  have hlist (room : Nat) : WrittenAlike Γ room (.row .list vs) (.row .list ws) := by
    cases room with
    | zero => rfl
    | succ room => simp [WrittenAlike, Classes.toJson?, hitems]
  cases room with
  | zero => rfl
  | succ room =>
    cases form with
    | userList =>
      cases room with
      | zero => rfl
      | succ inner =>
        have hinner := hlist inner
        rw [WrittenAlike] at hinner ⊢
        rw [Classes.toJson?, Classes.toJson?, hinner]
    | _ => simp [WrittenAlike, Classes.toJson?, hitems]

/-- Iterators are written alike if what they have still to give is. -/
theorem writtenAlike_iterator (kind : String) (mark : Nat) {vs ws : List Value}
    (h : ∀ room, List.Forall₂ (WrittenAlike Γ room) vs ws) (room : Nat) :
    WrittenAlike Γ room (.iterator kind mark vs) (.iterator kind mark ws) := by
  cases room with
  | zero => rfl
  | succ room =>
    rw [WrittenAlike, Classes.toJson?, Classes.toJson?]
    exact congrArg _ (mapM_eq_of_forall₂ (h room))

/-- Mappings are written alike if their keys and values are. -/
theorem writtenAlike_dict {room : Nat} {es fs : List (Value × Value)}
    (h : List.Forall₂ (fun e f => Γ.keyText? true e.1 = Γ.keyText? true f.1 ∧
      WrittenAlike Γ room e.2 f.2) es fs) :
    WrittenAlike Γ (room + 1) (.dict es) (.dict fs) := by
  unfold WrittenAlike
  rw [Classes.toJson?, Classes.toJson?]
  refine congrArg (· >>= _) (mapM_eq_of_forall₂ (h.imp ?_))
  rintro ⟨k, v⟩ ⟨k', w⟩ ⟨hkey, hvalue⟩
  rw [WrittenAlike] at hvalue
  simp only [hkey, hvalue]

/-- **Values that are alike in public are written alike**, whatever the room. -/
theorem writtenAlike_of_alikeInPublic {v w : Value} (h : v.AlikeInPublic Γ w) (room : Nat) :
    WrittenAlike Γ room v w := by
  induction h generalizing room with
  | same v => rfl
  | row form hlength _ ih =>
    exact writtenAlike_row form (fun room => forall₂_of_zip hlength fun p hp => ih p hp room) room
  | dict hlength hkeys _ _ ihvalues =>
    cases room with
    | zero => rfl
    | succ room =>
      exact writtenAlike_dict (forall₂_of_zip hlength fun p hp =>
        ⟨keyText?_eq_of_alikeInPublic (hkeys p hp) true, ihvalues p hp room⟩)
  | member cls mixin name _ ih =>
    cases room with
    | zero => rfl
    | succ room => exact ih room
  | iterator kind mark hlength _ ih =>
    exact writtenAlike_iterator kind mark
      (fun room => forall₂_of_zip hlength fun p hp => ih p hp room) room
  | number mark mark' _ ih =>
    rw [WrittenAlike, toJson?_number, toJson?_number]
    exact ih room
  | plain hplain hnames _ ih =>
    cases room with
    | zero => rfl
    | succ room =>
      exact writtenAlike_plain hplain fun room => .of_zip hnames fun p hp => ih p hp room
  | other hother hnames h ih =>
    cases room with
    | zero => rfl
    | succ room =>
      have hshown := shownAttrs_eq_of_matchBy (.of_zip hnames fun p hp =>
        shown_eq_of_alikeInPublic (h p hp))
      exact writtenAlike_object hother hshown (.of_zip hnames fun p hp => ih p hp room)

/-- **What has a leading underscore never reaches a stored form**: two values that are no texts,
flags or numbers and are alike in public have one stored form, or none. -/
theorem encode_eq_of_alikeInPublic {v w : Value} (hv : v.isPrimitive = false)
    (hw : w.isPrimitive = false) (h : v.AlikeInPublic Γ w) : Γ.encode v = Γ.encode w := by
  have hjson : Γ.jsonTextOf v = Γ.jsonTextOf w := by
    have hwritten := writtenAlike_of_alikeInPublic h Classes.writingRoom
    rw [WrittenAlike] at hwritten
    rw [Classes.jsonTextOf, Classes.jsonTextOf, Classes.json?, Classes.json?, hwritten]
  by_cases hnull : v = .null
  · subst hnull
    cases h
    rfl
  · have hnull' : w ≠ .null := by
      rintro rfl
      cases h
      exact hnull rfl
    rw [encode_of_not_isPrimitive hnull hv, encode_of_not_isPrimitive hnull' hw, hjson]

/-! ### Accounts -/

/-- Accounts: plain objects that hold a number and whatever else. -/
def accounts : Classes :=
  { decls := [{ name := "Account", kind := .plain }] }

/-- An account with a private key that is no text. -/
def lockedAccount : Value :=
  .object "Account" [("_key", .octets .bytes [0xFF]), ("number", .int 7)]

/-- The account without the key, and with a private list of other accounts. -/
def linkedAccount : Value :=
  .object "Account" [("number", .int 7), ("_linked", .row .list [lockedAccount])]

theorem publicAttrs_locked :
    publicAttrs [("_key", .octets .bytes [0xFF]), ("number", .int 7)] = [("number", .int 7)] := by
  have hkey : "_key".startsWith "_" = true := by decide +kernel
  have hnumber : "number".startsWith "_" = false := by decide +kernel
  simp [publicAttrs, hkey, hnumber]

theorem publicAttrs_linked :
    publicAttrs [("number", .int 7), ("_linked", .row .list [lockedAccount])] =
      [("number", .int 7)] := by
  have hnumber : "number".startsWith "_" = false := by decide +kernel
  have hlinked : "_linked".startsWith "_" = true := by decide +kernel
  simp [publicAttrs, hnumber, hlinked]

/-- The private attributes are all that the two accounts differ in. -/
theorem alikeInPublic_account : lockedAccount.AlikeInPublic accounts linkedAccount := by
  refine .plain ⟨rfl, rfl, rfl⟩ ?_ ?_
  · rw [publicAttrs_locked, publicAttrs_linked]
  · rw [publicAttrs_locked, publicAttrs_linked]
    exact List.forall_mem_singleton.mpr (.same _)

/-- Two accounts in a mapping of lists have one stored form, whatever is private in them. -/
theorem encode_eq_of_alikeInPublic_accounts :
    accounts.encode (.dict [(.text "all", .row .list [lockedAccount, .int 1])]) =
      accounts.encode (.dict [(.text "all", .row .list [linkedAccount, .int 1])]) := by
  refine encode_eq_of_alikeInPublic rfl rfl (.dict rfl ?keys ?values)
  case keys => exact List.forall_mem_singleton.mpr (.same _)
  case values =>
    refine List.forall_mem_singleton.mpr (.row .list rfl ?_)
    simp only [List.zip_cons_cons, List.zip_nil_right, List.forall_mem_cons]
    exact ⟨alikeInPublic_account, .same _, List.forall_mem_nil _⟩

end Carryover
