import Carryover.Field.Declaration
import Mathlib.Data.List.TakeWhile

/-!
# Names of attributes

A private name begins with two underscores and does not end with two. Objects hold its attribute
under the name that is marked with the class: an underscore, the name of the class without its
leading underscores, and the private name (`markedName`). All other attributes they hold under their
own names. A class makes of a name the name that is declared and the name of the attribute:

| name | name declared | name of the attribute |
| --- | --- | --- |
| a private name | the same | the marked name |
| a marked name | the private name | the same |
| any other name | the same | the same |

A private name and a marked one differ in the second character, unless the name of the class is
underscores alone. So the names for an attribute are the two spellings of one name
(`attribute_eq_iff`).
-/

namespace Carryover

/-- A name with the mark of a class: an underscore, the name of the class without its leading
underscores, and the name. -/
def markedName (cls name : String) : String :=
  String.ofList ('_' :: (cls.toList.dropWhile (· == '_') ++ name.toList))

/-- The name under which objects hold the attribute that a class calls by a name. -/
def heldName (cls name : String) : String :=
  if isPrivate name.toList then markedName cls name else name

/-- Whether a name is one of the spellings of a name in a class: the name itself, or the one that
objects hold it under. -/
def Spells (cls name spelling : String) : Prop :=
  spelling = name ∨ spelling = heldName cls name

instance (cls name spelling : String) : Decidable (Spells cls name spelling) :=
  inferInstanceAs (Decidable (_ ∨ _))

variable {cls name spelling : String}

/-- A private name starts with two underscores. -/
theorem toList_of_isPrivate {name : List Char} (h : isPrivate name = true) :
    twoUnderscores ++ name.drop 2 = name := by
  have hprefix := (Bool.and_eq_true_iff.mp h).1
  exact List.prefix_iff_eq_append.mp (List.isPrefixOf_iff_prefix.mp hprefix)

/-- The name of a class without its leading underscores begins with another character. -/
theorem exists_dropWhile_eq_cons (hcls : ∃ c ∈ cls.toList, c ≠ '_') :
    ∃ c rest, c ≠ '_' ∧ cls.toList.dropWhile (· == '_') = c :: rest := by
  obtain ⟨c, hc, hne⟩ := hcls
  cases hdrop : cls.toList.dropWhile (· == '_') with
  | nil =>
    rw [List.dropWhile_eq_nil_iff] at hdrop
    exact absurd (eq_of_beq (hdrop c hc)) hne
  | cons first rest =>
    have hfirst := List.head_dropWhile_not (· == '_') (l := cls.toList) (by simp [hdrop])
    simp only [hdrop, List.head_cons, beq_eq_false_iff_ne] at hfirst
    exact ⟨first, rest, hfirst, rfl⟩

/-- The second character tells a private name from a marked one. -/
theorem not_marked_of_isPrivate (hcls : ∃ c ∈ cls.toList, c ≠ '_')
    (hname : isPrivate name.toList = true) : ¬ privateMark cls <+: name.toList := by
  obtain ⟨c, rest, hc, hdrop⟩ := exists_dropWhile_eq_cons hcls
  rw [privateMark, hdrop, ← toList_of_isPrivate hname]
  intro h
  have hsecond := (List.cons_prefix_cons.mp h).2
  exact hc (List.cons_prefix_cons.mp hsecond).1

/-- The mark of a class before a private name is its marked form. -/
theorem privateMark_append (cls : String) (hname : isPrivate name.toList = true) :
    String.ofList (privateMark cls ++ name.toList.drop 2) = markedName cls name := by
  rw [privateMark, List.cons_append, List.append_assoc, toList_of_isPrivate hname, markedName]

/-- A marked name starts with the mark of its class. -/
theorem marked_markedName (cls : String) (hname : isPrivate name.toList = true) :
    privateMark cls <+: (markedName cls name).toList := by
  rw [← privateMark_append cls hname, String.toList_ofList]
  exact List.prefix_append _ _

/-- Names with the same marked form are the same. -/
theorem markedName_injective (cls : String) : Function.Injective (markedName cls) := by
  intro m n h
  have hchars := (List.cons.inj (String.ofList_injective h)).2
  exact String.toList_inj.mp (List.append_cancel_left hchars)

/-- A private name is held in its marked form. -/
theorem heldName_of_isPrivate (hname : isPrivate name.toList = true) :
    heldName cls name = markedName cls name :=
  if_pos hname

/-- Any other name is held as it is. -/
theorem heldName_of_not_isPrivate (hname : isPrivate name.toList = false) :
    heldName cls name = name := by
  rw [heldName, hname, if_neg Bool.false_ne_true]

/-- A name is that of its attribute, or it is private and the attribute is marked. -/
theorem attributeNames_cases (cls name : String) :
    (attributeNames cls name).2 = name ∨
      isPrivate name.toList = true ∧ (attributeNames cls name).2 = markedName cls name := by
  unfold attributeNames
  dsimp only
  split_ifs with hmark hprivate
  · exact .inl rfl
  · exact .inr ⟨hprivate, privateMark_append cls hprivate⟩
  · exact .inl rfl

/-- A marked name is the private name without the mark. -/
theorem attributeNames_markedName (cls : String) (hname : isPrivate name.toList = true) :
    attributeNames cls (markedName cls name) = (name, markedName cls name) := by
  -- the mark ends with the two underscores that the private name begins with
  have hlength :
      (privateMark cls).length - 2 = ('_' :: cls.toList.dropWhile (· == '_')).length := by
    simp [privateMark, twoUnderscores]
  rw [attributeNames, if_pos (List.isPrefixOf_iff_prefix.mpr (marked_markedName cls hname)),
    hlength, markedName, String.toList_ofList, ← List.cons_append, List.drop_left,
    String.ofList_toList]

/-- A private name is marked with the class. -/
theorem attributeNames_of_isPrivate (hcls : ∃ c ∈ cls.toList, c ≠ '_')
    (hname : isPrivate name.toList = true) :
    attributeNames cls name = (name, markedName cls name) := by
  have hmark : ¬ (privateMark cls).isPrefixOf name.toList = true := fun h =>
    not_marked_of_isPrivate hcls hname (List.isPrefixOf_iff_prefix.mp h)
  rw [attributeNames, if_neg hmark, if_pos hname, privateMark_append cls hname]

/-- Any other name that is not marked stays as it is. -/
theorem attributeNames_of_not_isPrivate (hname : isPrivate name.toList = false)
    (hmark : ¬ privateMark cls <+: name.toList) : attributeNames cls name = (name, name) := by
  have hmark' : ¬ (privateMark cls).isPrefixOf name.toList = true := fun h =>
    hmark (List.isPrefixOf_iff_prefix.mp h)
  rw [attributeNames, if_neg hmark', hname, if_neg Bool.false_ne_true]

/-- Under each spelling of a name that is not marked, a class declares the name, and the attribute
that objects hold. -/
theorem attributeNames_of_spells (hcls : ∃ c ∈ cls.toList, c ≠ '_')
    (hmark : ¬ privateMark cls <+: name.toList) (h : Spells cls name spelling) :
    attributeNames cls spelling = (name, heldName cls name) := by
  cases hname : isPrivate name.toList with
  | true =>
    rw [Spells, heldName_of_isPrivate hname] at h
    rw [heldName_of_isPrivate hname]
    obtain rfl | rfl := h
    · exact attributeNames_of_isPrivate hcls hname
    · exact attributeNames_markedName cls hname
  | false =>
    rw [Spells, heldName_of_not_isPrivate hname, or_self] at h
    rw [heldName_of_not_isPrivate hname, h]
    exact attributeNames_of_not_isPrivate hname hmark

/-- **The names for an attribute are the spellings of one name.** -/
theorem attribute_eq_iff (hcls : ∃ c ∈ cls.toList, c ≠ '_')
    (hmark : ¬ privateMark cls <+: name.toList) :
    (attributeNames cls spelling).2 = heldName cls name ↔ Spells cls name spelling := by
  refine ⟨fun h => ?_, fun h => by rw [attributeNames_of_spells hcls hmark h]⟩
  obtain hself | ⟨hprivate, hmarked⟩ := attributeNames_cases cls spelling
  · exact .inr (hself.symm.trans h)
  · rw [hmarked] at h
    cases hname : isPrivate name.toList with
    | true =>
      rw [heldName_of_isPrivate hname] at h
      exact .inl (markedName_injective cls h)
    | false =>
      rw [heldName_of_not_isPrivate hname] at h
      exact absurd (h ▸ marked_markedName cls hprivate) hmark

/-- In a class that is named by underscores alone, two private names may have one attribute. -/
example : isPrivate "__x".toList = true ∧ isPrivate "___x".toList = true ∧
    attributeNames "_" "__x" = ("__x", "___x") ∧ attributeNames "_" "___x" = ("__x", "___x") := by
  decide

/-- A private name is no name of the language. -/
theorem isDunder_of_isPrivate (hname : isPrivate name.toList = true) : isDunder name = false := by
  rw [isPrivate, Bool.and_eq_true_iff, Bool.not_eq_true'] at hname
  rw [isDunder, hname.2, Bool.and_false]

/-- No spelling of a name has two underscores at both ends, if the name does not. -/
theorem isDunder_of_spells (hcls : ∃ c ∈ cls.toList, c ≠ '_') (hname : isDunder name = false)
    (h : Spells cls name spelling) : isDunder spelling = false := by
  obtain rfl | rfl := h
  · exact hname
  · cases hprivate : isPrivate name.toList with
    | false => rwa [heldName_of_not_isPrivate hprivate]
    | true =>
      obtain ⟨c, rest, hc, hdrop⟩ := exists_dropWhile_eq_cons hcls
      rw [heldName_of_isPrivate hprivate, isDunder, markedName, String.toList_ofList, hdrop]
      simp [twoUnderscores, Ne.symm hc]

end Carryover
