import Carryover.Command.Report
import Carryover.Proofs.Entries

/-!
# What paths lead to

A path is followed attribute by attribute. Each one leads to an item or to a failure that is told
of, except that a property may raise any fault (`Followed.find`).

| attribute of | leads to |
| --- | --- |
| a module | a class, a form, a value, a factory, a routine or a module |
| a class | a value, a routine, a property or a slot |
| a value | a value, a routine or the fault of a property |

So an object of which only the class is known is of no declared class.
-/

namespace Carryover
namespace Command

variable {s : Scope}

/-- Whether an item is an object of which only the class is known. -/
def Item.isThing : Item → Bool
  | .thing _ => true
  | _ => false

/-- What following a path comes to: an item that is no object of a declared class of which nothing
else is known, the fault of a property, or a failure that is told of. -/
inductive Followed : Except Failure Item → Prop
  | item {item : Item} (h : ∀ cls, item ≠ .thing (.declared cls)) : Followed (.ok item)
  | fault (f : Fault) : Followed (.error (.raised f))
  | told {e : Failure} (h : e.isTold = true) : Followed (.error e)

namespace Followed

/-- An item that is no thing is one that a path comes to. -/
theorem of_isThing {item : Item} (h : item.isThing = false) : Followed (.ok item) := by
  refine .item fun cls heq => ?_
  rw [heq] at h
  cases h

/-- A value is followed. -/
theorem value (v : Value) : Followed (.ok (.value v)) :=
  of_isThing rfl

/-- A function is followed. -/
theorem routine (name : String) : Followed (.ok (.routine name)) :=
  of_isThing rfl

/-- An attribute of a class is followed. -/
theorem classAttribute (cls name : String) : Followed (s.classAttribute cls name) := by
  unfold Scope.classAttribute
  split
  · exact value _
  · split
    · rename_i entry _
      refine .item fun cls h => ?_
      cases entry <;> cases h
    · split
      · exact routine _
      · refine .told ?_
        unfold Scope.noDeclaredAttribute
        split_ifs <;> rfl

/-- An attribute of an object is followed. -/
theorem objectAttribute (cls : String) (attrs : Entries String Value) (name : String) :
    Followed (s.objectAttribute cls attrs name) := by
  unfold Scope.objectAttribute
  dsimp only
  split
  · exact value _
  · exact .fault _
  · exact value _
  · split
    · exact value _
    · split
      · exact routine _
      · exact .told rfl

/-- An attribute of a value is followed. -/
theorem valueAttribute (v : Value) (name : String) : Followed (s.valueAttribute v name) := by
  unfold Scope.valueAttribute
  split
  · exact objectAttribute _ _ _
  · exact objectAttribute _ _ _
  · split_ifs
    · exact value _
    · exact value _
    · split
      · exact value _
      · exact .told rfl
  · exact .told rfl

/-- No module of the catalogue holds an object of which only the class is known, nor do
directives. -/
theorem isThing_of_catalog :
    (∀ e ∈ catalog, ∀ i ∈ e.2, i.2.isThing = false) ∧
      ∀ i ∈ directiveShelf, i.2.isThing = false := by
  decide +kernel

/-- What stands in a module is followed. -/
theorem homeItem {path name : String} {item : Item} (h : s.homeItem? path name = some item) :
    Followed (.ok item) := by
  unfold Scope.homeItem? at h
  split_ifs at h
  · unfold Scope.declared? at h
    split at h
    · cases h
      exact of_isThing rfl
    · cases h
      exact value _
    · obtain ⟨d, -, rfl⟩ := Option.map_eq_some_iff.mp h
      exact of_isThing rfl
  · split at h
    · rename_i shelved hshelved
      obtain ⟨shelf, hshelf, hitem⟩ := Option.bind_eq_some_iff.mp hshelved
      cases h
      exact of_isThing (isThing_of_catalog.1 _ (Entries.mem_of_get? hshelf) _
        (Entries.mem_of_get? hitem))
    · dsimp only at h
      split_ifs at h
      cases h
      exact of_isThing rfl

/-- An attribute of an item is followed. -/
theorem attributeOf (item : Item) (name : String) : Followed (s.attributeOf item name) := by
  unfold Scope.attributeOf
  split
  · split
    · rename_i hitem
      exact homeItem hitem
    · exact .told rfl
  · exact classAttribute _ _
  · split
    · rename_i hitem
      split_ifs at hitem
      exact of_isThing (isThing_of_catalog.2 _ (Entries.mem_of_get? hitem))
    · exact .told rfl
  · exact .told rfl
  · exact .told rfl
  · exact valueAttribute _ _
  all_goals exact .told rfl

/-- The attributes along a path are followed. -/
theorem foldlM (names : List String) {home : Item} (h : Followed (.ok home)) :
    Followed (names.foldlM s.attributeOf home) := by
  induction names generalizing home with
  | nil => exact h
  | cons name names ih =>
    have hfound := attributeOf (s := s) home name
    rw [List.foldlM_cons]
    generalize s.attributeOf home name = found at hfound
    cases hfound with
    | item hitem => exact ih (.item hitem)
    | fault f => exact .fault f
    | told htold => exact .told htold

/-- A module that is not found is told. -/
theorem isTold_of_findHomes (parent : Option String) (parts : List String) {e : Failure}
    (h : Scope.findHomes parent parts = .error e) : e.isTold = true := by
  induction parts generalizing parent with
  | nil => cases h
  | cons part parts ih =>
    unfold Scope.findHomes at h
    dsimp only at h
    split_ifs at h
    · exact ih _ h
    · cases h
      unfold Scope.missingHome
      split <;> rfl

/-- The module of a path is followed. -/
theorem findHome (path : String) : Followed (Scope.findHome path) := by
  unfold Scope.findHome
  split_ifs
  · exact .told rfl
  · split
    · exact of_isThing rfl
    · rename_i hhomes
      exact .told (isTold_of_findHomes _ _ hhomes)

/-- A path leads to an item or to a failure that is told of, unless a property on it raises a
fault. -/
theorem find (s : Scope) (text : String) : Followed (s.find text) := by
  unfold Scope.find Path.read
  dsimp only
  split_ifs
  · exact .told rfl
  · generalize hpath : Path.mk _ _ = path
    have hhome := findHome path.home
    change Followed (Scope.findHome path.home >>= _)
    generalize Scope.findHome path.home = found at hhome
    cases hhome with
    | item hitem => exact foldlM _ (.item hitem)
    | fault f => exact .fault f
    | told htold => exact .told htold

/-- The type of a name is followed. -/
theorem findType (s : Scope) (name : String) : Followed (s.findType name) := by
  unfold Scope.findType
  split
  · exact of_isThing rfl
  · exact find s name

end Followed

end Command
end Carryover
