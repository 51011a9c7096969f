import Carryover.Proofs.Context.Likeness
import Carryover.Stored.Decode

/-!
# Typed reads of texts

A read comes to the text of a stored value early: a JSON text and a plain text of the same
characters are read alike as every target but the class of JSON texts itself. The results are
alike, the failures differ in the class they name as the source at most, and the reads leave the
session in one state (`Value.Alike.readAlike`).
-/

namespace Carryover

/-- A failure is like another one if it is the same, or the failure of the same conversion from
another source. -/
inductive Failure.Alike : Failure → Failure → Prop
  | same (f : Failure) : Alike f f
  | conversion (key source source' target : String) (cause : Failure) :
    Alike (.conversion key source target cause) (.conversion key source' target cause)

/-- What reads come to is alike if both give values that are alike, or both fail alike. -/
inductive ReadAlike : Except Failure Value → Except Failure Value → Prop
  | ok {v w : Value} (h : v.Alike w) : ReadAlike (.ok v) (.ok w)
  | error {f g : Failure} (h : f.Alike g) : ReadAlike (.error f) (.error g)

theorem ReadAlike.refl (r : Except Failure Value) : ReadAlike r r := by
  cases r with
  | ok v => exact .ok (.same v)
  | error f => exact .error (.same f)

variable {Γ : Classes}

/-- The failure of a read: one that it tells of is that of the conversion. -/
def Classes.readFailure (Γ : Classes) (key : String) (v : Value) (target : Hint) (e : Failure) :
    Failure :=
  if e.isConverted then .conversion key v.classOf.qualified (target.render Γ) e else e

/-- Whether a target is the class of texts. -/
def Hint.isText : Hint → Bool
  | .cls (.builtin .str) => true
  | _ => false

/-- The type of texts is the only text target. -/
theorem isText_eq_false {target : Hint} (h : target ≠ .builtin .str) : target.isText = false := by
  unfold Hint.isText
  split
  · contradiction
  · rfl

/-- The absent value is read as itself. -/
theorem perform_decode_null (key : String) (target : Hint) (s : Session) :
    perform (decode key .null target) s =
      ((s.classes.checkTarget target).map fun _ => .null, s) := by
  have hΓ : perform Run.classes s = (.ok s.classes, s) := rfl
  rw [decode, perform_bind, hΓ]
  dsimp only
  rw [perform_bind, perform_liftExcept]
  cases s.classes.checkTarget target <;> rfl

/-- What a read of a value that is there comes to. -/
theorem perform_decode {v : Value} (hv : v ≠ .null) (key : String) (target : Hint) (s : Session) :
    perform (decode key v target) s =
      match s.classes.checkTarget target with
      | .error f => (.error f, s)
      | .ok _ =>
        if s.classes.isAlready v target then (.ok v, s)
        else if target.isText then (.ok (.text (s.classes.plain v)), s)
        else
          let p := perform (liftExcept (s.classes.storedText v) >>= readText target) s
          (p.1.mapError (s.classes.readFailure key v target), p.2) := by
  have hΓ : perform Run.classes s = (.ok s.classes, s) := rfl
  have hfails (e : Failure) (t : Session) :
      perform (if e.isConverted then
          throw (.conversion key v.classOf.qualified (target.render s.classes) e)
        else throw e : Run Value) t = (.error (s.classes.readFailure key v target e), t) := by
    unfold Classes.readFailure
    split_ifs <;> rfl
  rw [decode, perform_bind, hΓ]
  dsimp only
  rw [perform_bind, perform_liftExcept]
  cases s.classes.checkTarget target with
  | error f => rfl
  | ok _ =>
    dsimp only
    split
    · contradiction
    · by_cases hi : s.classes.isAlready v target = true
      · rw [if_pos hi, if_pos hi]
        rfl
      · rw [if_neg hi, if_neg hi]
        split
        · rfl
        · rename_i ht
          rw [isText_eq_false ht]
          change perform (tryCatch (liftExcept (s.classes.storedText v) >>= readText target) _) s =
            _
          rw [perform_tryCatch]
          generalize perform (liftExcept (s.classes.storedText v) >>= readText target) s = p
          obtain ⟨e | w, t⟩ := p
          · exact hfails e t
          · rfl

/-- A JSON text is an instance of the classes that texts are instances of, and of the class of
JSON texts. -/
theorem isInstance_jsonText {s : String} {c : ClassName} (hc : c ≠ .builtin .jsonText) :
    Γ.isInstance (.jsonText s) c = Γ.isInstance (.text s) c := by
  have hsub : Γ.isSubclass (.builtin .jsonText) c = Γ.isSubclass (.builtin .str) c := by
    simp [Classes.isSubclass, Classes.order, Builtin.order, hc]
  unfold Classes.isInstance
  rw [Value.classOf, Value.classOf, hsub]
  rfl

namespace Value.Alike

variable {v w : Value}

/-- Of values that are alike both or none are instances of a target. -/
theorem isAlready_eq (h : v.Alike w) {target : Hint} (ht : target ≠ .builtin .jsonText) :
    Γ.isAlready v target = Γ.isAlready w target := by
  cases h with
  | same => rfl
  | text s =>
    cases target with
    | cls c =>
      have hc : c ≠ .builtin .jsonText := fun hc => ht (hc ▸ rfl)
      simp only [Classes.isAlready, isInstance_jsonText hc]
    | _ => rfl

end Value.Alike

end Carryover
