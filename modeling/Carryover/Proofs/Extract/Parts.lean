import Carryover.Extract
import Carryover.Proofs.Entries

/-!
# The values inside of a value

The parts of a value are the value and all values inside of it, the elements of ranges and bytes
and the names of members among them, and there are as many of them as the value weighs
(`length_parts`). A step of the extraction stays inside: an attribute of a part, and an element of
one, is a part of the object or of the classes again.
-/

namespace Carryover

namespace Value

mutual

/-- A value and the values inside of it. -/
def parts : Value → List Value
  | .row form items => .row form items :: itemParts items
  | .dict entries => .dict entries :: entryParts entries
  | .range r => .range r :: r.toList.map .int
  | .octets form bytes => .octets form bytes :: bytes.map fun b => .int b.toNat
  | .member cls mixin name value => .member cls mixin name value :: .text name :: parts value
  | .object cls attrs => .object cls attrs :: attrParts attrs
  | .number mark cls attrs => .number mark cls attrs :: attrParts attrs
  | .iterator kind mark items => .iterator kind mark items :: itemParts items
  | v => [v]

/-- The values in the items of a row. -/
def itemParts : List Value → List Value
  | [] => []
  | v :: vs => parts v ++ itemParts vs

/-- The values in the entries of a mapping. -/
def entryParts : List (Value × Value) → List Value
  | [] => []
  | (k, v) :: es => parts k ++ parts v ++ entryParts es

/-- The values in the attributes of an object. -/
def attrParts : List (String × Value) → List Value
  | [] => []
  | (_, v) :: attrs => parts v ++ attrParts attrs

end

mutual

/-- A value has as many parts as its weight says. -/
theorem length_parts : ∀ v : Value, v.parts.length = v.weight
  | .row form items => by simp [parts, weight, length_itemParts items]
  | .dict entries => by simp [parts, weight, length_entryParts entries]
  | .range r => by simp [parts, weight, IntRange.toList]
  | .octets form bytes => by simp [parts, weight]
  | .member cls mixin name value => by simp [parts, weight, length_parts value]
  | .object cls attrs => by simp [parts, weight, length_attrParts attrs]
  | .number mark cls attrs => by simp [parts, weight, length_attrParts attrs]
  | .iterator kind mark items => by simp [parts, weight, length_itemParts items]
  | .null | .bool _ | .int _ | .float _ | .complex .. | .decimal _ | .fraction _ | .text _
  | .jsonText _ | .date _ | .datetime _ | .time _ | .duration _ | .uuid _ => by
    simp [parts, weight]

/-- Items have as many parts as their weights say. -/
theorem length_itemParts : ∀ vs : List Value, (itemParts vs).length = weights vs
  | [] => rfl
  | v :: vs => by simp [itemParts, weights, length_parts v, length_itemParts vs]

/-- Entries have as many parts as their weights say. -/
theorem length_entryParts : ∀ es : List (Value × Value), (entryParts es).length = entryWeights es
  | [] => rfl
  | (k, v) :: es => by
    simp [entryParts, entryWeights, length_parts k, length_parts v, length_entryParts es]
    omega

/-- Attributes have as many parts as their weights say. -/
theorem length_attrParts : ∀ es : List (String × Value), (attrParts es).length = attrWeights es
  | [] => rfl
  | (_, v) :: es => by simp [attrParts, attrWeights, length_parts v, length_attrParts es]

end

/-- A value is a part of itself. -/
theorem mem_parts_self (v : Value) : v ∈ v.parts := by
  cases v <;> simp [parts]

mutual

/-- The parts of a part are parts. -/
theorem parts_subset : ∀ {v w : Value}, w ∈ v.parts → w.parts ⊆ v.parts
  | .row form items, w, h => by
    rw [parts, List.mem_cons] at h
    obtain rfl | h := h
    · exact List.Subset.refl _
    · exact List.subset_cons_of_subset _ (itemParts_subset h)
  | .dict entries, w, h => by
    rw [parts, List.mem_cons] at h
    obtain rfl | h := h
    · exact List.Subset.refl _
    · exact List.subset_cons_of_subset _ (entryParts_subset h)
  | .range r, w, h => by
    rw [parts, List.mem_cons] at h
    obtain rfl | h := h
    · exact List.Subset.refl _
    · obtain ⟨i, hi, rfl⟩ := List.mem_map.mp h
      exact List.cons_subset.mpr
        ⟨List.mem_cons_of_mem _ (List.mem_map_of_mem hi), List.nil_subset _⟩
  | .octets form bytes, w, h => by
    rw [parts, List.mem_cons] at h
    obtain rfl | h := h
    · exact List.Subset.refl _
    · obtain ⟨b, hb, rfl⟩ := List.mem_map.mp h
      refine List.cons_subset.mpr ⟨List.mem_cons_of_mem _ ?_, List.nil_subset _⟩
      exact List.mem_map.mpr ⟨b, hb, rfl⟩
  | .member cls mixin name value, w, h => by
    rw [parts, List.mem_cons, List.mem_cons] at h
    obtain rfl | rfl | h := h
    · exact List.Subset.refl _
    · simp [parts]
    · exact List.subset_cons_of_subset _ (List.subset_cons_of_subset _ (parts_subset h))
  | .object cls attrs, w, h => by
    rw [parts, List.mem_cons] at h
    obtain rfl | h := h
    · exact List.Subset.refl _
    · exact List.subset_cons_of_subset _ (attrParts_subset h)
  | .number mark cls attrs, w, h => by
    rw [parts, List.mem_cons] at h
    obtain rfl | h := h
    · exact List.Subset.refl _
    · exact List.subset_cons_of_subset _ (attrParts_subset h)
  | .iterator kind mark items, w, h => by
    rw [parts, List.mem_cons] at h
    obtain rfl | h := h
    · exact List.Subset.refl _
    · exact List.subset_cons_of_subset _ (itemParts_subset h)
  | .null, w, h | .bool _, w, h | .int _, w, h | .float _, w, h | .complex .., w, h
  | .decimal _, w, h | .fraction _, w, h | .text _, w, h | .jsonText _, w, h | .date _, w, h
  | .datetime _, w, h | .time _, w, h | .duration _, w, h | .uuid _, w, h => by
    simp only [parts, List.mem_singleton] at h
    exact h ▸ List.Subset.refl _

/-- The parts of a part of items are parts of them. -/
theorem itemParts_subset : ∀ {vs : List Value} {w : Value}, w ∈ itemParts vs →
    w.parts ⊆ itemParts vs
  | v :: vs, w, h => by
    rw [itemParts, List.mem_append] at h
    obtain h | h := h
    · exact List.subset_append_of_subset_left _ (parts_subset h)
    · exact List.subset_append_of_subset_right _ (itemParts_subset h)

/-- The parts of a part of entries are parts of them. -/
theorem entryParts_subset : ∀ {es : List (Value × Value)} {w : Value}, w ∈ entryParts es →
    w.parts ⊆ entryParts es
  | (k, v) :: es, w, h => by
    rw [entryParts, List.mem_append, List.mem_append] at h
    obtain (h | h) | h := h
    · exact List.subset_append_of_subset_left _
        (List.subset_append_of_subset_left _ (parts_subset h))
    · exact List.subset_append_of_subset_left _
        (List.subset_append_of_subset_right _ (parts_subset h))
    · exact List.subset_append_of_subset_right _ (entryParts_subset h)

/-- The parts of a part of attributes are parts of them. -/
theorem attrParts_subset : ∀ {attrs : List (String × Value)} {w : Value}, w ∈ attrParts attrs →
    w.parts ⊆ attrParts attrs
  | (_, v) :: attrs, w, h => by
    rw [attrParts, List.mem_append] at h
    obtain h | h := h
    · exact List.subset_append_of_subset_left _ (parts_subset h)
    · exact List.subset_append_of_subset_right _ (attrParts_subset h)

end

/-- An item is a part of the items. -/
theorem mem_itemParts {vs : List Value} {w : Value} (h : w ∈ vs) : w ∈ itemParts vs := by
  induction vs with
  | nil => cases h
  | cons v vs ih =>
    rw [itemParts, List.mem_append]
    obtain rfl | h := List.mem_cons.mp h
    · exact .inl (mem_parts_self w)
    · exact .inr (ih h)

/-- The value of an attribute is a part of the attributes. -/
theorem mem_attrParts {attrs : List (String × Value)} {name : String} {w : Value}
    (h : (name, w) ∈ attrs) : w ∈ attrParts attrs := by
  induction attrs with
  | nil => cases h
  | cons e attrs ih =>
    rw [attrParts, List.mem_append]
    obtain rfl | h := List.mem_cons.mp h
    · exact .inl (mem_parts_self w)
    · exact .inr (ih h)

/-- An element of a sequence is a part of it. -/
theorem mem_parts_of_elements? {v w : Value} {items : List Value}
    (h : v.elements? = some items) (hw : w ∈ items) : w ∈ v.parts := by
  cases v with
  | row form vs =>
    have hvs : items = vs := by cases form <;> simp_all [elements?]
    subst hvs
    exact List.mem_cons_of_mem _ (mem_itemParts hw)
  | range r =>
    cases h
    exact List.mem_cons_of_mem _ hw
  | octets form bytes =>
    cases form with
    | memoryview =>
      cases h
      exact List.mem_cons_of_mem _ hw
    | _ => cases h
  | _ => cases h

end Value

/-- The values that a class holds, with the values inside of them. -/
def ClassDecl.parts (d : ClassDecl) : List Value :=
  let given := d.properties.filterMap fun (_, o) => o.value?
  (given ++ d.classAttrs.map (·.2) ++ d.defaults.map (·.2)).flatMap Value.parts

namespace Classes

/-- The values that other attributes give, with the values inside of them. -/
def otherParts (Γ : Classes) : List Value :=
  (Γ.others.filterMap fun a => a.outcome.value?).flatMap Value.parts

/-- The values that the classes hold and other attributes give, with the values inside of them. -/
def parts (Γ : Classes) : List Value :=
  Γ.decls.flatMap ClassDecl.parts ++ Γ.otherParts

/-- The classes have as many parts as their weight says. -/
theorem length_parts (Γ : Classes) : Γ.parts.length = Γ.weight := by
  have hv (vs : List Value) : (vs.flatMap Value.parts).length = (vs.map Value.weight).sum := by
    rw [List.length_flatMap]
    exact congrArg (fun size => (vs.map size).sum) (funext Value.length_parts)
  have hd (d : ClassDecl) : d.parts.length = d.weight := hv _
  rw [parts, List.length_append, otherParts, hv, List.length_flatMap, weight]
  exact congrArg (fun size => (Γ.decls.map size).sum + _) (funext hd)

variable {Γ : Classes}

/-- The values inside of some values hold the values inside of each. -/
theorem flatMap_parts_subset {vs : List Value} {w : Value} (h : w ∈ vs.flatMap Value.parts) :
    w.parts ⊆ vs.flatMap Value.parts := by
  obtain ⟨v, hv, hw⟩ := List.mem_flatMap.mp h
  exact fun x hx => List.mem_flatMap.mpr ⟨v, hv, Value.parts_subset hw hx⟩

/-- The parts of a part of the classes are parts of them. -/
theorem parts_subset {w : Value} (h : w ∈ Γ.parts) : w.parts ⊆ Γ.parts := by
  obtain h | h := List.mem_append.mp h
  · obtain ⟨d, hd, hw⟩ := List.mem_flatMap.mp h
    exact fun x hx => List.mem_append_left _
      (List.mem_flatMap.mpr ⟨d, hd, flatMap_parts_subset hw hx⟩)
  · exact List.subset_append_of_subset_right _ (flatMap_parts_subset h)

/-- The value that a class gives under a name is a part of the classes. -/
theorem mem_parts_of_holding? {c : ClassName} {name : String} {e : ClassEntry} {w : Value}
    (h : Γ.holding? c name = some e) (he : e = .property (.gives w) ∨ e = .attribute w) :
    w ∈ Γ.parts := by
  obtain ⟨d, hd, hheld⟩ := List.exists_of_findSome?_eq_some h
  have hdecl : d ∈ Γ.decls := by
    obtain ⟨c', -, hc'⟩ := List.mem_filterMap.mp hd
    cases c' with
    | declared n => exact List.mem_of_find?_eq_some hc'
    | _ => cases hc'
  refine List.mem_append_left _
    (List.mem_flatMap.mpr ⟨d, hdecl, List.mem_flatMap.mpr ⟨w, ?_, w.mem_parts_self⟩⟩)
  simp only [List.mem_append, List.mem_filterMap, List.mem_map]
  unfold ClassDecl.holding? at hheld
  split at hheld
  · rename_i o ho
    obtain rfl := Option.some.inj hheld
    obtain he | he := he
    · cases he
      exact .inl (.inl ⟨_, Entries.mem_of_get? ho, rfl⟩)
    · cases he
  · split at hheld
    · rename_i v hv
      obtain rfl := Option.some.inj hheld
      obtain he | he := he
      · cases he
      · cases he
        exact .inl (.inr ⟨_, Entries.mem_of_get? hv, rfl⟩)
    · split_ifs at hheld
      · obtain rfl := Option.some.inj hheld
        simp at he
      · split at hheld
        · rename_i v hv
          split_ifs at hheld
          obtain rfl := Option.some.inj hheld
          obtain he | he := he
          · cases he
          · cases he
            exact .inr ⟨_, Entries.mem_of_get? hv, rfl⟩
        · cases hheld

/-- What an attribute comes to is given. -/
theorem outcome_attribute?_eq_some {o : Outcome} {w : Value} (h : o.attribute? = .ok (some w)) :
    o = .gives w := by
  cases o with
  | gives v =>
    cases h
    rfl
  | raises f =>
    simp only [Outcome.attribute?] at h
    split_ifs at h
    cases h

/-- An attribute of an object of a declared class is in its attributes or a part of the classes. -/
theorem mem_attrParts_of_declaredAttribute? {cls name : String} {attrs : Entries String Value}
    {w : Value} (h : Γ.declaredAttribute? (.object cls attrs) name = .ok (some w)) :
    w ∈ Value.attrParts attrs ∨ w ∈ Γ.parts := by
  have hattrs (hw : Entries.get? attrs name = some w) : w ∈ Value.attrParts attrs :=
    Value.mem_attrParts (Entries.mem_of_get? hw)
  unfold declaredAttribute? at h
  dsimp only at h
  split at h
  · rename_i o hx
    obtain rfl := outcome_attribute?_eq_some h
    exact .inr (mem_parts_of_holding? hx (.inl rfl))
  · exact .inl (hattrs (Except.ok.inj h))
  · rename_i x hx
    cases hget : Entries.get? attrs name with
    | some y =>
      rw [hget] at h
      cases h
      exact .inl (hattrs hget)
    | none =>
      rw [hget] at h
      cases h
      exact .inr (mem_parts_of_holding? hx (.inr rfl))
  · exact .inl (hattrs (Except.ok.inj h))

/-- An attribute that is declared is a part of the object or of the classes. -/
theorem mem_parts_of_declaredAttribute? {v w : Value} {name : String}
    (h : Γ.declaredAttribute? v name = .ok (some w)) : w ∈ v.parts ∨ w ∈ Γ.parts := by
  cases v with
  | object cls attrs =>
    exact (mem_attrParts_of_declaredAttribute? h).imp_left (List.mem_cons_of_mem _)
  | number mark cls attrs =>
    have hobject : Γ.declaredAttribute? (.object cls attrs) name = .ok (some w) := h
    exact (mem_attrParts_of_declaredAttribute? hobject).imp_left (List.mem_cons_of_mem _)
  | member cls mixin member value =>
    unfold declaredAttribute? at h
    dsimp only at h
    split_ifs at h
    · cases h
      exact .inl (by simp [Value.parts])
    · cases h
      exact .inl (by simp [Value.parts, w.mem_parts_self])
    · cases h
  | _ => cases h

/-- What another attribute gives is a part of the classes. -/
theorem mem_parts_of_other? {v w : Value} {name : String} (h : Γ.other? v name = some (.gives w)) :
    w ∈ Γ.parts := by
  obtain ⟨a, ha, hw⟩ := Option.map_eq_some_iff.mp h
  refine List.mem_append_right _ (List.mem_flatMap.mpr ⟨w, ?_, w.mem_parts_self⟩)
  exact List.mem_filterMap.mpr ⟨a, List.mem_of_find?_eq_some ha, by rw [hw]; rfl⟩

/-- **An attribute of an object is a part of it or of the classes.** -/
theorem mem_parts_of_attribute? {v w : Value} {name : String}
    (h : Γ.attribute? v name = .ok (some w)) : w ∈ v.parts ∨ w ∈ Γ.parts := by
  unfold attribute? at h
  split at h
  · split at h
    · rename_i o ho
      obtain rfl := outcome_attribute?_eq_some h
      exact .inr (mem_parts_of_other? ho)
    · cases h
  · exact mem_parts_of_declaredAttribute? h

end Classes
end Carryover
