import Carryover.Proofs.Class.Order
import Carryover.Proofs.Hint.Within
import Carryover.Proofs.Stored.TypeRead

/-!
# Reads as a class

A value is read as its own class as it is (`perform_decode_self`). What is no instance of a class is
read by its text, and the result does not depend on what has been read before
(`fst_perform_decode_eq_ok`).
-/

namespace Carryover

variable {Γ : Classes}

/-! ### Reads as a class -/

/-- A class is read as itself, whatever has been read before. -/
theorem adapterOf_cls (c : ClassName) (s : Session) : s.adapterOf (.cls c) = .cls c := by
  unfold Session.adapterOf
  cases hfind : s.adapters.find? fun h => h.same (.cls c) with
  | none => rfl
  | some h => exact eq_of_same_cls (List.find?_some (p := fun h : Hint => h.same (.cls c)) hfind)

/-- Reads a JSON text as a value of a class. -/
def Classes.readClass (Γ : Classes) (c : ClassName) (text : String) : Except Failure Value :=
  match (Hint.cls c).unreadable? Γ with
  | none => Γ.readAs (.cls c) text
  | some e => if e.isA .noSchema then Γ.readArguments c text else .error e

/-- A class is read as such. -/
theorem readType_cls (c : ClassName) (text : String) (s : Session) :
    s.readType (.cls c) text = s.classes.readClass c text := by
  unfold Session.readType Classes.readClass
  cases (Hint.cls c).unreadable? s.classes with
  | none => exact congrArg (s.classes.readAs · text) (adapterOf_cls c s)
  | some e =>
    dsimp only [plainClass?]
    split_ifs <;> rfl

/-- A class is a target, but for that of the absent value. -/
theorem checkTarget_cls {c : ClassName} (hc : c ≠ .builtin .noneType) :
    Γ.checkTarget (.cls c) = .ok () := by
  unfold Classes.checkTarget
  split <;> simp_all

/-- A value is an instance of its class. -/
theorem isInstance_self (Γ : Classes) (v : Value) : Γ.isInstance v v.classOf = true := by
  simp [Classes.isInstance, Classes.isSubclass, mem_order_self]

/-- A value is already one of its class. -/
theorem isAlready_self (Γ : Classes) (v : Value) : Γ.isAlready v (.cls v.classOf) = true := by
  have hi := isInstance_self Γ v
  cases v <;> simp_all [Classes.isAlready, Value.classOf]

/-- A value that is there is not of the class of the absent value. -/
theorem classOf_ne_noneType {v : Value} (hv : v ≠ .null) : v.classOf ≠ .builtin .noneType := by
  cases v with
  | null => exact absurd rfl hv
  | row form => cases form <;> simp [Value.classOf, RowForm.builtin]
  | octets form => cases form <;> simp [Value.classOf, OctetForm.builtin]
  | _ => simp [Value.classOf]

/-- A stored value is read as its own class as it is. -/
theorem perform_decode_self {v : Value} (hv : v ≠ .null) (key : String) (s : Session) :
    perform (decode key v (.cls v.classOf)) s = (.ok v, s) := by
  rw [perform_decode hv, checkTarget_cls (classOf_ne_noneType hv)]
  simp [isAlready_self]

/-- What is no instance of a class is read by its text. -/
theorem fst_perform_decode_eq_ok {v w : Value} {c : ClassName} {s : Session} (hv : v ≠ .null)
    (hnone : c ≠ .builtin .noneType) (hstr : c ≠ .builtin .str)
    (hi : s.classes.isAlready v (.cls c) = false) (key : String) :
    (perform (decode key v (.cls c)) s).1 = .ok w ↔
      ∃ text, s.classes.storedText v = .ok text ∧ s.classes.readClass c text = .ok w := by
  have hstr' : (Hint.cls c).isText = false := isText_eq_false (by simpa [Hint.builtin] using hstr)
  rw [fst_perform_decode hv]
  simp [checkTarget_cls hnone, hi, hstr', readType_cls]

/-- A class that can be read is read by its adapter. -/
theorem readClass_eq_ok {c : ClassName} (hc : (Hint.cls c).unreadable? Γ = none) {text : String}
    {w : Value} :
    Γ.readClass c text = .ok w ↔
      ∃ j f, Json.parse? text = some j ∧ Json.fit Γ (.cls c) j = .ok f ∧ f.value = w := by
  rw [Classes.readClass, hc]
  dsimp only
  rw [Classes.readAs]
  cases Json.parse? text with
  | none => simp
  | some j => cases hfit : Json.fit Γ (.cls c) j <;> simp [hfit]

/-- A text is read as a value of a built-in class. -/
theorem readClass_builtin {b : Builtin} (hb : Hint.isReadable b = true) {text : String}
    {w : Value} :
    Γ.readClass (.builtin b) text = .ok w ↔
      ∃ j f, Json.parse? text = some j ∧ Json.fitBuiltin Γ b j = .ok f ∧ f.value = w := by
  rw [readClass_eq_ok (by simp [Hint.unreadable?, Hint.schemaFailure, hb])]
  simp only [Json.fit]

/-- A text is read as a member of an enumeration. -/
theorem readClass_enumeration {cls : String} {d : ClassDecl} {mixin : Mixin}
    (hd : Γ.find? cls = some d) (hk : d.kind = .enumeration mixin) {text : String} {w : Value} :
    Γ.readClass (.declared cls) text = .ok w ↔
      ∃ j f, Json.parse? text = some j ∧ Json.fitMember d mixin j = .ok f ∧ f.value = w := by
  rw [readClass_eq_ok (by simp [Hint.unreadable?, Hint.schemaFailure, hd, hk])]
  simp only [Json.fit, hd, hk]

end Carryover
