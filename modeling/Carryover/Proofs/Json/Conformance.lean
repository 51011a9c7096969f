import Carryover.Proofs.Hint.Within
import Carryover.Proofs.Stored.ClassRead

/-!
# Values that conform to a type

A value conforms to a class if it is an instance of it, where a flag is an instance of its own class
and of the class of all objects alone, and to a composed type part by part. What a tree fits a type
as conforms to the type, and to each type that the type is within (`conforms_of_fit`).

| type | values |
| --- | --- |
| class | its instances |
| list, set | rows of that form whose items conform |
| tuple | tuples of as many items, one by one |
| mapping | mappings whose keys and values conform |
| union | values that conform to a member |
| literal | the values listed, or equal ones of their class |
-/

namespace Carryover

/-- Whether a value is one of a type. -/
inductive Value.Conforms (Γ : Classes) : Hint → Value → Prop
  | cls {c : ClassName} {v : Value} (hinstance : Γ.isInstance v c = true)
      (hflag : ∀ b, v = .bool b → c = .builtin .bool ∨ c = .builtin .object) : Conforms Γ (.cls c) v
  | any {v : Value} : Conforms Γ .any v
  | nothing : Conforms Γ .nothing .null
  | row {form : RowForm} {spelling : Spelling} {item : Hint} {vs : List Value}
      (hvs : ∀ v ∈ vs, Conforms Γ item v) : Conforms Γ (.row form spelling item) (.row form vs)
  | dict {spelling : Spelling} {key value : Hint} {es : List (Value × Value)}
      (hkeys : ∀ e ∈ es, Conforms Γ key e.1) (hvalues : ∀ e ∈ es, Conforms Γ value e.2) :
      Conforms Γ (.dict spelling key value) (.dict es)
  | tuple {hs : List Hint} {vs : List Value} (hlength : hs.length = vs.length)
      (hvs : ∀ p ∈ hs.zip vs, Conforms Γ p.1 p.2) : Conforms Γ (.tuple hs) (.row .tuple vs)
  | union {hs : List Hint} {h : Hint} {v : Value} (hmem : h ∈ hs) (hv : Conforms Γ h v) :
      Conforms Γ (.union hs) v
  | literal {values : List Value} {v w : Value} (hmem : w ∈ values)
      (hv : v = w ∨ Hint.sameLiteral v w = true) : Conforms Γ (.literal values) v
  | annotated {base : Hint} {notes : List Note} {v : Value} (hv : Conforms Γ base v) :
      Conforms Γ (.annotated base notes) v

variable {Γ : Classes}

/-- What conforms to a class is read as it is. -/
theorem conforms_cls_iff {c : ClassName} {v : Value} :
    v.Conforms Γ (.cls c) ↔ Γ.isAlready v (.cls c) = true := by
  have hiff : Γ.isAlready v (.cls c) = true ↔ Γ.isInstance v c = true ∧
      ∀ b, v = .bool b → c = .builtin .bool ∨ c = .builtin .object := by
    cases v <;> simp [Classes.isAlready]
  rw [hiff]
  constructor
  · rintro ⟨hinstance, hflag⟩
    exact ⟨hinstance, hflag⟩
  · rintro ⟨hinstance, hflag⟩
    exact .cls hinstance hflag

/-- A value is one of its class. -/
theorem conforms_self (v : Value) : v.Conforms Γ (.cls v.classOf) :=
  conforms_cls_iff.mpr (isAlready_self Γ v)

/-! ### Scalars -/

/-- What fits is made of what is there. -/
theorem unfitOr_eq_ok {α : Type} {o : Option α} {g : α → Fit} {f : Fit}
    (h : Json.unfitOr o g = .ok f) : ∃ a, f = g a := by
  cases o with
  | none => cases h
  | some a => exact ⟨a, (Except.ok.inj h).symm⟩

/-- Every tree stands for an object. -/
theorem conforms_object_toValue (j : Json) : j.toValue.Conforms Γ (.builtin .object) := by
  refine .cls ?_ fun _ _ => .inr rfl
  cases j <;> simp [Json.toValue, Classes.isInstance, Classes.isSubclass, Classes.order,
    Value.classOf, Builtin.order, RowForm.builtin]

/-- A set is made of the items that differ. -/
theorem setOf?_eq_ok {form : RowForm} {items : List Value} {v : Value}
    (h : Value.setOf? Γ form items = .ok v) : v = .row form (Value.distinct items) := by
  unfold Value.setOf? at h
  split_ifs at h
  exact (Except.ok.inj h).symm

/-- What a tree fits a built-in class as is of the class, unless the class has instances of
others. -/
theorem classOf_of_fitBuiltin {b : Builtin} {j : Json} {f : Fit} (hobject : b ≠ .object)
    (hsequence : b ≠ .sequence) (h : Json.fitBuiltin Γ b j = .ok f) :
    f.value.classOf = .builtin b := by
  unfold Json.fitBuiltin at h
  split at h
  -- scalars that are read by a function that may refuse them
  case h_4 | h_6 | h_9 | h_10 | h_21 | h_22 | h_23 | h_24 | h_25 | h_26 | h_27 =>
    obtain ⟨a, rfl⟩ := unfitOr_eq_ok h
    rfl
  -- sets, whose items may not be in one
  case h_17 | h_18 =>
    split at h
    · rename_i v hv
      cases h
      rw [Fit.of, setOf?_eq_ok hv]
      rfl
    · cases h
  case h_1 => exact absurd rfl hobject
  case h_19 => exact absurd rfl hsequence
  case h_28 => cases h
  all_goals
    cases h
    rfl

/-- What a tree fits a built-in class as is an instance of the class. -/
theorem conforms_of_fitBuiltin {b : Builtin} {j : Json} {f : Fit}
    (h : Json.fitBuiltin Γ b j = .ok f) : f.value.Conforms Γ (.builtin b) := by
  by_cases hobject : b = .object
  · subst hobject
    rw [Json.fitBuiltin] at h
    cases h
    exact conforms_object_toValue j
  by_cases hsequence : b = .sequence
  · subst hsequence
    unfold Json.fitBuiltin at h
    cases j with
    | list items =>
      cases h
      exact .cls rfl fun _ h => nomatch h
    | _ => cases h
  · have hself := conforms_self (Γ := Γ) f.value
    rwa [classOf_of_fitBuiltin hobject hsequence h] at hself

/-- What a tree fits an enumeration as is one of its members. -/
theorem conforms_of_fitMember {cls : String} {d : ClassDecl} {mixin : Mixin} {j : Json} {f : Fit}
    (hd : Γ.find? cls = some d) (h : Json.fitMember d mixin j = .ok f) :
    f.value.Conforms Γ (.cls (.declared cls)) := by
  unfold Json.fitMember at h
  dsimp only at h
  split at h
  · split at h
    · rename_i name w _
      cases h
      rw [← Classes.name_of_find? hd]
      exact conforms_self (.member d.name mixin name w)
    · cases h
  · cases h

/-! ### Parts -/

/-- Two parts fit together if each of them fits. -/
theorem both_eq_ok {α β γ : Type} {combine : α → β → γ} {x : Except Failure α}
    {y : Except Failure β} {c : γ} (h : Fit.both combine x y = .ok c) :
    ∃ a b, x = .ok a ∧ y = .ok b ∧ c = combine a b := by
  unfold Fit.both at h
  split at h
  · rename_i a b
    exact ⟨a, b, rfl, rfl, (Except.ok.inj h).symm⟩
  all_goals cases h

/-- What holds of the values that trees fit a type as holds of those that a list of trees does. -/
theorem forall_mem_fitItems {P : Value → Prop} {item : Hint}
    (hitem : ∀ {j f}, Json.fit Γ item j = .ok f → P f.value) {js : List Json} {fits : List Fit}
    (h : Json.fitItems Γ item js = .ok fits) : ∀ v ∈ fits.map Fit.value, P v := by
  induction js generalizing fits with
  | nil =>
    rw [Json.fitItems] at h
    cases h
    exact List.forall_mem_nil _
  | cons j js ih =>
    rw [Json.fitItems] at h
    obtain ⟨f, rest, hf, hrest, rfl⟩ := both_eq_ok h
    exact List.forall_mem_cons.mpr ⟨hitem hf, ih hrest⟩

/-- What holds of all that fits the keys and of all that fits the values holds of the entries. -/
theorem forall_mem_fitEntries {P Q : Value → Prop} {key value : Hint}
    (hkey : ∀ {j f}, Json.fit Γ key j = .ok f → P f.value)
    (hvalue : ∀ {j f}, Json.fit Γ value j = .ok f → Q f.value) {es : List (String × Json)}
    {pairs : List (Fit × Fit)} (h : Json.fitEntries Γ key value es = .ok pairs) :
    ∀ p ∈ pairs, P p.1.value ∧ Q p.2.value := by
  induction es generalizing pairs with
  | nil =>
    rw [Json.fitEntries] at h
    cases h
    exact List.forall_mem_nil _
  | cons e es ih =>
    rw [Json.fitEntries] at h
    obtain ⟨p, rest, hp, hrest, rfl⟩ := both_eq_ok h
    obtain ⟨f, g, hf, hg, rfl⟩ := both_eq_ok hp
    exact List.forall_mem_cons.mpr ⟨⟨hkey hf, hvalue hg⟩, ih hrest⟩

/-- The items that differ are among the items. -/
theorem mem_of_mem_distinct {vs : List Value} {v : Value} (h : v ∈ Value.distinct vs) :
    v ∈ vs := by
  have hall (ws acc : List Value) (h : v ∈ ws.foldl
      (fun acc x => if acc.any fun y => y.equals x then acc else acc ++ [x]) acc) :
      v ∈ acc ∨ v ∈ ws := by
    induction ws generalizing acc with
    | nil => exact .inl h
    | cons w ws ih =>
      rw [List.foldl_cons] at h
      obtain h | h := ih _ h
      · split_ifs at h
        · exact .inl h
        · obtain h | h := List.mem_append.mp h
          · exact .inl h
          · obtain rfl := List.mem_singleton.mp h
            exact .inr List.mem_cons_self
      · exact .inr (List.mem_cons_of_mem _ h)
  obtain h | h := hall vs [] h
  · cases h
  · exact h

/-- An entry of a mapping has a key and a value that were written, not always together: an equal
key keeps its place. -/
theorem mem_putEntry {es : List (Value × Value)} {k v : Value} {e : Value × Value}
    (h : e ∈ Value.putEntry es k v) :
    (e.1 = k ∨ ∃ d ∈ es, e.1 = d.1) ∧ (e.2 = v ∨ ∃ d ∈ es, e.2 = d.2) := by
  induction es with
  | nil =>
    obtain rfl := List.mem_singleton.mp h
    exact ⟨.inl rfl, .inl rfl⟩
  | cons d es ih =>
    rw [Value.putEntry] at h
    split_ifs at h
    · obtain rfl | h := List.mem_cons.mp h
      · exact ⟨.inr ⟨d, List.mem_cons_self, rfl⟩, .inl rfl⟩
      · have hmem := List.mem_cons_of_mem d h
        exact ⟨.inr ⟨e, hmem, rfl⟩, .inr ⟨e, hmem, rfl⟩⟩
    · obtain rfl | h := List.mem_cons.mp h
      · exact ⟨.inr ⟨_, List.mem_cons_self, rfl⟩, .inr ⟨_, List.mem_cons_self, rfl⟩⟩
      · have hmore {p : Value × Value → Prop} (h : ∃ d ∈ es, p d) : ∃ e ∈ d :: es, p e := by
          obtain ⟨e, he, hp⟩ := h
          exact ⟨e, List.mem_cons_of_mem _ he, hp⟩
        exact (ih h).imp (.imp_right hmore) (.imp_right hmore)

/-- What holds of keys and values that are written holds of those of the mapping. -/
theorem forall_mem_dictOf {P Q : Value → Prop} {es : List (Value × Value)}
    (hes : ∀ e ∈ es, P e.1 ∧ Q e.2) :
    ∃ fs, Value.dictOf es = .dict fs ∧ ∀ e ∈ fs, P e.1 ∧ Q e.2 := by
  have hall (es acc : List (Value × Value)) (hes : ∀ e ∈ es, P e.1 ∧ Q e.2)
      (hacc : ∀ e ∈ acc, P e.1 ∧ Q e.2) :
      ∀ e ∈ es.foldl (fun acc e => Value.putEntry acc e.1 e.2) acc, P e.1 ∧ Q e.2 := by
    induction es generalizing acc with
    | nil => exact hacc
    | cons d es ih =>
      obtain ⟨hd, hrest⟩ := List.forall_mem_cons.mp hes
      refine ih _ hrest fun e he => ?_
      obtain ⟨hkey, hvalue⟩ := mem_putEntry he
      constructor
      · obtain h | ⟨d', hd', h⟩ := hkey
        · exact h ▸ hd.1
        · exact h ▸ (hacc d' hd').1
      · obtain h | ⟨d', hd', h⟩ := hvalue
        · exact h ▸ hd.2
        · exact h ▸ (hacc d' hd').2
  exact ⟨_, rfl, hall es [] hes (List.forall_mem_nil _)⟩

/-- What fits a type of rows is a list whose items fit the type of the items. -/
theorem row_of_fit {form : RowForm} {spelling : Spelling} {item : Hint} {j : Json} {f : Fit}
    (hf : Json.fit Γ (.row form spelling item) j = .ok f) :
    ∃ js fits vs, j = .list js ∧ Json.fitItems Γ item js = .ok fits ∧ f.value = .row form vs ∧
      ∀ v ∈ vs, v ∈ fits.map Fit.value := by
  rw [Json.fit.eq_def] at hf
  cases j with
  | list js =>
    dsimp only at hf
    split at hf
    · rename_i fits hfits
      split at hf
      case h_2 | h_3 =>
        split at hf
        · rename_i v hv
          cases hf
          exact ⟨js, fits, _, rfl, hfits, setOf?_eq_ok hv, fun w => mem_of_mem_distinct⟩
        · cases hf
      all_goals
        cases hf
        exact ⟨js, fits, _, rfl, hfits, rfl, fun _ h => h⟩
    · cases hf
  | _ => cases hf

/-- What fits a type of mappings is an object whose keys and values fit those of the mapping. -/
theorem dict_of_fit {spelling : Spelling} {key value : Hint} {j : Json} {f : Fit}
    (hf : Json.fit Γ (.dict spelling key value) j = .ok f) :
    ∃ es pairs, j = .object es ∧ Json.fitEntries Γ key value es = .ok pairs ∧
      f.value = Value.dictOf (pairs.map fun p => (p.1.value, p.2.value)) := by
  rw [Json.fit.eq_def] at hf
  cases j with
  | object es =>
    dsimp only at hf
    split at hf
    · rename_i pairs hpairs
      cases hf
      exact ⟨es, pairs, rfl, hpairs, rfl⟩
    · cases hf
  | _ => cases hf

/-- What fits a type of tuples is a list whose items fit the types one by one. -/
theorem tuple_of_fit {hs : List Hint} {j : Json} {f : Fit}
    (hf : Json.fit Γ (.tuple hs) j = .ok f) :
    ∃ js fits, j = .list js ∧ Json.fitEach Γ hs js = .ok fits ∧
      f.value = .row .tuple (fits.map Fit.value) := by
  rw [Json.fit.eq_def] at hf
  cases j with
  | list js =>
    dsimp only at hf
    split at hf
    · rename_i fits hfits
      cases hf
      exact ⟨js, fits, rfl, hfits, rfl⟩
    · cases hf
  | _ => cases hf

/-- A tree fits a literal as a value that is listed. -/
theorem mem_of_listed? {values : List Value} {j : Json} {e : Value × Unit}
    (h : Json.listed? (values.map fun v => (v, ())) j = some e) : e.1 ∈ values := by
  have hmem : e ∈ (values.map fun v => (v, ())).reverse := by
    unfold Json.listed? at h
    split at h
    · cases h
      rename_i hfind
      exact List.mem_of_find?_eq_some hfind
    · exact List.mem_of_find?_eq_some h
  obtain ⟨v, hv, rfl⟩ := List.mem_map.mp (List.mem_reverse.mp hmem)
  exact hv

theorem eq_noneType {h : Hint} (hh : h.isNoneType = true) : h = .builtin .noneType := by
  unfold Hint.isNoneType at hh
  split at hh
  · rfl
  · cases hh

/-- The better of two fits is one of them. -/
theorem better_cases (best : Option Fit) (f : Fit) :
    best = some (Json.better best f) ∨ Json.better best f = f := by
  cases best with
  | none => exact .inr rfl
  | some g =>
    rw [Json.better]
    split_ifs
    · exact .inr rfl
    · exact .inl rfl

/-- What is found among the members of a union is the best fit from before, or fits a member. -/
theorem exists_fit_of_fitUnion {hs : List Hint} {j : Json} {best : Option Fit} {f : Fit}
    (hf : Json.fitUnion Γ hs j best = .ok f) :
    best = some f ∨ ∃ h ∈ hs, Json.fit Γ h j = .ok f := by
  induction hs generalizing best with
  | nil =>
    cases best <;> rw [Json.fitUnion] at hf <;> cases hf
    exact .inl rfl
  | cons h hs ih =>
    have hlater {best : Option Fit} (hf : Json.fitUnion Γ hs j best = .ok f) :
        best = some f ∨ ∃ k ∈ h :: hs, Json.fit Γ k j = .ok f := by
      obtain hbest | ⟨k, hk, hkf⟩ := ih hf
      · exact .inl hbest
      · exact .inr ⟨k, List.mem_cons_of_mem h hk, hkf⟩
    rw [Json.fitUnion] at hf
    split at hf
    · rename_i g hg
      split_ifs at hf
      · cases hf
        exact .inr ⟨h, List.mem_cons_self, hg⟩
      · obtain hbest | hfound := hlater hf
        · obtain hbetter | hbetter := better_cases best g
          · exact .inl (hbetter.trans hbest)
          · refine .inr ⟨h, List.mem_cons_self, ?_⟩
            rw [← Option.some.inj hbest, hbetter, hg]
        · exact .inr hfound
    · exact hlater hf
    · cases hf

/-- What a tree fits a union as it fits a member as. -/
theorem exists_fit_of_union {hs : List Hint} {j : Json} {f : Fit}
    (hf : Json.fit Γ (.union hs) j = .ok f) : ∃ h ∈ hs, Json.fit Γ h j = .ok f := by
  have hmember {j : Json} (hf : Json.fitUnion Γ hs j none = .ok f) :
      ∃ h ∈ hs, Json.fit Γ h j = .ok f :=
    (exists_fit_of_fitUnion hf).resolve_left (by simp)
  rw [Json.fit.eq_def] at hf
  dsimp only at hf
  split at hf
  · split_ifs at hf with hnone
    · obtain ⟨h, hmem, hh⟩ := List.any_eq_true.mp hnone
      obtain rfl := eq_noneType hh
      refine ⟨_, hmem, ?_⟩
      rw [← hf, Json.fit]
      rfl
    · exact hmember hf
  · exact hmember hf

/-! ### Types -/

/-- What a tree fits a class as is an instance of the class. -/
theorem conforms_of_fit_cls {c : ClassName} {j : Json} {f : Fit}
    (hf : Json.fit Γ (.cls c) j = .ok f) : f.value.Conforms Γ (.cls c) := by
  cases c with
  | builtin b =>
    rw [Json.fit] at hf
    exact conforms_of_fitBuiltin hf
  | declared name =>
    rw [Json.fit] at hf
    split at hf
    · cases hf
    · rename_i d hd
      split at hf
      · exact conforms_of_fitMember hd hf
      · split at hf
        · split at hf
          · cases hf
            exact conforms_self (.object name _)
          · cases hf
        · cases hf
  | named home name =>
    rw [Json.fit] at hf
    · cases hf
    all_goals simp

/-- Trees fit the types of a tuple one by one. -/
theorem conforms_of_fitEach {hs ks : List Hint} (hw : List.Forall₂ Hint.Within hs ks)
    (hks : ∀ k ∈ ks, ∀ {h j f}, h.Within k → Json.fit Γ h j = .ok f → f.value.Conforms Γ k)
    {js : List Json} {fits : List Fit} (hfits : Json.fitEach Γ hs js = .ok fits) :
    ks.length = fits.length ∧ ∀ p ∈ ks.zip (fits.map Fit.value), p.2.Conforms Γ p.1 := by
  induction hw generalizing js fits with
  | nil =>
    cases js with
    | nil =>
      rw [Json.fitEach] at hfits
      cases hfits
      exact ⟨rfl, List.forall_mem_nil _⟩
    | cons j js =>
      rw [Json.fitEach] at hfits
      · cases hfits
      all_goals simp
  | cons hk _ ih =>
    cases js with
    | nil =>
      rw [Json.fitEach] at hfits
      · cases hfits
      all_goals simp
    | cons j js =>
      rw [Json.fitEach] at hfits
      obtain ⟨f, rest, hf, hrest, rfl⟩ := both_eq_ok hfits
      obtain ⟨hconforms, hks⟩ := List.forall_mem_cons.mp hks
      obtain ⟨hlength, hall⟩ := ih hks hrest
      exact ⟨congrArg (· + 1) hlength, List.forall_mem_cons.mpr ⟨hconforms hk hf, hall⟩⟩

/-- **What a tree fits a type as conforms to each type that it is within.** -/
theorem conforms_of_fit {h k : Hint} (hk : k.IsTyped) {j : Json} {f : Fit} (hw : h.Within k)
    (hf : Json.fit Γ h j = .ok f) : f.value.Conforms Γ k := by
  induction hk generalizing h j f with
  | cls c =>
    cases hw
    exact conforms_of_fit_cls hf
  | any => exact .any
  | nothing =>
    cases hw
    rw [Json.fit] at hf
    unfold Json.fitBuiltin at hf
    cases j <;> cases hf
    exact .nothing
  | row form spelling _ ih =>
    cases hw with
    | row _ _ hw =>
      obtain ⟨js, fits, vs, -, hfits, hvalue, hvs⟩ := row_of_fit hf
      have hall := forall_mem_fitItems (ih hw) hfits
      rw [hvalue]
      exact .row fun v hv => hall v (hvs v hv)
  | @dict spelling key value _ _ ihkey ihvalue =>
    cases hw with
    | dict _ hkey hvalue =>
      obtain ⟨es, pairs, -, hpairs, hf⟩ := dict_of_fit hf
      have hall : ∀ e ∈ pairs.map fun p => (p.1.value, p.2.value),
          e.1.Conforms Γ key ∧ e.2.Conforms Γ value :=
        List.forall_mem_map.mpr (forall_mem_fitEntries (ihkey hkey) (ihvalue hvalue) hpairs)
      obtain ⟨fs, hfs, hconforms⟩ := forall_mem_dictOf hall
      rw [hf, hfs]
      exact .dict (fun e he => (hconforms e he).1) fun e he => (hconforms e he).2
  | tuple _ ih =>
    obtain ⟨hs, rfl, hitems⟩ := tuple_of_within hw
    obtain ⟨js, fits, -, hfits, hvalue⟩ := tuple_of_fit hf
    obtain ⟨hlength, hall⟩ := conforms_of_fitEach hitems (fun k hk _ _ _ => ih k hk) hfits
    rw [hvalue]
    exact .tuple (by simpa using hlength) hall
  | union _ ih =>
    obtain ⟨hs, rfl, hmembers⟩ := union_of_within hw
    obtain ⟨h, hmem, hf⟩ := exists_fit_of_union hf
    obtain ⟨k, hk, hwithin⟩ := hmembers h hmem
    exact .union hk (ih k hk hwithin hf)
  | literal values =>
    cases hw with
    | literal hws =>
      rw [Json.fit] at hf
      split at hf
      · rename_i v u hv
        cases hf
        obtain ⟨w, hw, hvw⟩ := hws v (mem_of_listed? hv)
        exact .literal hw hvw
      · cases hf
  | annotated notes _ ih =>
    cases hw with
    | annotated _ hw =>
      rw [Json.fit] at hf
      exact .annotated (ih hw hf)

end Carryover
