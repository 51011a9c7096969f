import Carryover.Hint.Basic
import Mathlib.Data.List.Forall2

/-!
# Types that are within others

A type that has been read is kept, and read in the place of each one that is the same but for the
order of its members. Of a type that is written out nothing more can be read so: the kept one is
within it (`within_of_same`).
-/

namespace Carryover

/-- A type that is the same as a class is the class. -/
theorem eq_of_same_cls {h : Hint} {c : ClassName} (hs : h.same (.cls c) = true) : h = .cls c := by
  cases h <;> simp_all [Hint.same]

/-- Whether a type is written out: texts that evaluate to a type are not among its parts. -/
inductive Hint.IsTyped : Hint → Prop
  | cls (c : ClassName) : IsTyped (.cls c)
  | any : IsTyped .any
  | nothing : IsTyped .nothing
  | row (form : RowForm) (spelling : Spelling) {item : Hint} (hitem : IsTyped item) :
      IsTyped (.row form spelling item)
  | dict (spelling : Spelling) {key value : Hint} (hkey : IsTyped key) (hvalue : IsTyped value) :
      IsTyped (.dict spelling key value)
  | tuple {hs : List Hint} (hhs : ∀ h ∈ hs, IsTyped h) : IsTyped (.tuple hs)
  | union {hs : List Hint} (hhs : ∀ h ∈ hs, IsTyped h) : IsTyped (.union hs)
  | literal (values : List Value) : IsTyped (.literal values)
  | annotated {base : Hint} (notes : List Note) (hbase : IsTyped base) :
      IsTyped (.annotated base notes)

/-- Whether one type reads a tree as values of another one alone: the members of its unions are
among those of the other, the values that it lists are listed there. -/
inductive Hint.Within : Hint → Hint → Prop
  | cls (c : ClassName) : Within (.cls c) (.cls c)
  | any : Within .any .any
  | nothing : Within .nothing .nothing
  | row (form : RowForm) (spelling : Spelling) {h k : Hint} (hk : Within h k) :
      Within (.row form spelling h) (.row form spelling k)
  | dict (spelling : Spelling) {key value key' value' : Hint} (hkey : Within key key')
      (hvalue : Within value value') :
    Within (.dict spelling key value) (.dict spelling key' value')
  | tupleNil : Within (.tuple []) (.tuple [])
  | tupleCons {h k : Hint} {hs ks : List Hint} (hk : Within h k)
      (hks : Within (.tuple hs) (.tuple ks)) : Within (.tuple (h :: hs)) (.tuple (k :: ks))
  | unionNil (ks : List Hint) : Within (.union []) (.union ks)
  | unionCons {h k : Hint} {hs ks : List Hint} (hmem : k ∈ ks) (hk : Within h k)
      (hks : Within (.union hs) (.union ks)) : Within (.union (h :: hs)) (.union ks)
  | literal {vs ws : List Value} (hws : ∀ v ∈ vs, ∃ w ∈ ws, v = w ∨ sameLiteral v w = true) :
      Within (.literal vs) (.literal ws)
  | annotated {h k : Hint} (notes : List Note) (hk : Within h k) :
      Within (.annotated h notes) (.annotated k notes)

/-- A tuple is within itself if its types are. -/
theorem within_tuple_self {hs : List Hint} (hhs : ∀ h ∈ hs, h.Within h) :
    (Hint.tuple hs).Within (.tuple hs) := by
  induction hs with
  | nil => exact .tupleNil
  | cons h hs ih =>
    obtain ⟨hh, hrest⟩ := List.forall_mem_cons.mp hhs
    exact .tupleCons hh (ih hrest)

/-- A union is within another one if each of its members is within a member of that one. -/
theorem within_union {hs ks : List Hint} (hhs : ∀ h ∈ hs, ∃ k ∈ ks, h.Within k) :
    (Hint.union hs).Within (.union ks) := by
  induction hs with
  | nil => exact .unionNil ks
  | cons h hs ih =>
    obtain ⟨⟨k, hmem, hk⟩, hrest⟩ := List.forall_mem_cons.mp hhs
    exact .unionCons hmem hk (ih hrest)

/-- What is within a union is one whose members are within members. -/
theorem union_of_within {h : Hint} {ks : List Hint} (hw : h.Within (.union ks)) :
    ∃ hs, h = .union hs ∧ ∀ h ∈ hs, ∃ k ∈ ks, h.Within k := by
  have hall : ∀ {hs : List Hint}, (Hint.union hs).Within (.union ks) →
      ∀ h ∈ hs, ∃ k ∈ ks, h.Within k := by
    intro hs hw
    induction hs with
    | nil => exact List.forall_mem_nil _
    | cons h hs ih =>
      cases hw with
      | unionCons hmem hk hks => exact List.forall_mem_cons.mpr ⟨⟨_, hmem, hk⟩, ih hks⟩
  cases hw with
  | unionNil => exact ⟨[], rfl, hall (.unionNil ks)⟩
  | unionCons hmem hk hks => exact ⟨_, rfl, hall (.unionCons hmem hk hks)⟩

/-- What is within a tuple is one whose types are within, one by one. -/
theorem tuple_of_within {h : Hint} {ks : List Hint} (hw : h.Within (.tuple ks)) :
    ∃ hs, h = .tuple hs ∧ List.Forall₂ Hint.Within hs ks := by
  have hall : ∀ {hs ks : List Hint}, (Hint.tuple hs).Within (.tuple ks) →
      List.Forall₂ Hint.Within hs ks := by
    intro hs ks hw
    induction hs generalizing ks with
    | nil =>
      cases hw
      exact .nil
    | cons h hs ih =>
      cases hw with
      | tupleCons hk hks => exact .cons hk (ih hks)
  cases hw with
  | tupleNil => exact ⟨[], rfl, .nil⟩
  | tupleCons hk hks => exact ⟨_, rfl, hall (.tupleCons hk hks)⟩

/-- A typed hint is within itself. -/
theorem within_self {h : Hint} (hh : h.IsTyped) : h.Within h := by
  induction hh with
  | cls c => exact .cls c
  | any => exact .any
  | nothing => exact .nothing
  | row form spelling _ ih => exact .row form spelling ih
  | dict spelling _ _ ihkey ihvalue => exact .dict spelling ihkey ihvalue
  | tuple _ ih => exact within_tuple_self ih
  | union _ ih => exact within_union fun h hmem => ⟨h, hmem, ih h hmem⟩
  | literal values => exact .literal fun v hv => ⟨v, hv, .inl rfl⟩
  | annotated notes _ ih => exact .annotated notes ih

mutual

/-- A type that is the same as one written out is within it. -/
theorem within_of_same : ∀ {h k : Hint}, h.same k = true → k.IsTyped → h.Within k
  | h, .cls c, hs, _ => by
    rw [eq_of_same_cls hs]
    exact .cls c
  | .any, .any, _, _ => .any
  | .nothing, .nothing, _, _ => .nothing
  | .row form spelling h, .row form' spelling' k, hs, .row _ _ hk => by
    simp only [Hint.same, Bool.and_eq_true, beq_iff_eq] at hs
    obtain ⟨⟨rfl, rfl⟩, hs⟩ := hs
    exact .row form spelling (within_of_same hs hk)
  | .dict spelling key value, .dict spelling' key' value', hs, .dict _ hkey hvalue => by
    simp only [Hint.same, Bool.and_eq_true, beq_iff_eq] at hs
    obtain ⟨⟨rfl, hskey⟩, hsvalue⟩ := hs
    exact .dict spelling (within_of_same hskey hkey) (within_of_same hsvalue hvalue)
  | .tuple hs, .tuple ks, hsame, .tuple hks => by
    rw [Hint.same] at hsame
    exact within_of_sameAll hsame hks
  | .union hs, .union ks, hsame, .union hks => by
    simp only [Hint.same, Bool.and_eq_true] at hsame
    exact within_of_eachIn hsame.2 hks
  | .literal vs, .literal ws, hsame, _ => by
    simp only [Hint.same, Bool.and_eq_true, List.all_eq_true, List.any_eq_true] at hsame
    refine .literal fun v hv => ?_
    obtain ⟨w, hw, hvw⟩ := hsame.2 v hv
    exact ⟨w, hw, .inr hvw⟩
  | .annotated h notes, .annotated k notes', hs, .annotated _ hk => by
    simp only [Hint.same, Bool.and_eq_true, beq_iff_eq] at hs
    obtain ⟨hs, rfl⟩ := hs
    exact .annotated notes (within_of_same hs hk)

/-- A tuple of the same types is within the tuple. -/
theorem within_of_sameAll : ∀ {hs ks : List Hint}, Hint.sameAll hs ks = true →
    (∀ k ∈ ks, k.IsTyped) → (Hint.tuple hs).Within (.tuple ks)
  | [], [], _, _ => .tupleNil
  | h :: hs, k :: ks, hsame, hks => by
    simp only [Hint.sameAll, Bool.and_eq_true] at hsame
    obtain ⟨hk, hrest⟩ := List.forall_mem_cons.mp hks
    exact .tupleCons (within_of_same hsame.1 hk) (within_of_sameAll hsame.2 hrest)

/-- A union of members that are the same as some of another one is within that one. -/
theorem within_of_eachIn : ∀ {hs ks : List Hint}, Hint.eachIn hs ks = true →
    (∀ k ∈ ks, k.IsTyped) → (Hint.union hs).Within (.union ks)
  | [], ks, _, _ => .unionNil ks
  | h :: hs, ks, hsame, hks => by
    simp only [Hint.eachIn, Bool.and_eq_true, List.any_eq_true] at hsame
    obtain ⟨⟨k, hmem, hk⟩, hrest⟩ := hsame
    exact .unionCons hmem (within_of_same hk (hks k hmem)) (within_of_eachIn hrest hks)

end

end Carryover
