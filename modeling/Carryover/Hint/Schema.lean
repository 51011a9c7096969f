import Carryover.Failure
import Carryover.Json.Fit

/-!
# Types that can be read

A value can be read into a hint if each part of it can: scalars, rows, mappings, enumerations,
records and models, but no plain class. A record with an annotation that names something
unknown can be named but not read into; any other fault of an annotation is the fault of the
hint itself.
-/

namespace Carryover
namespace Hint

/-- The built-in classes that values can be read into. -/
def isReadable : Builtin → Bool
  | .number | .jsonText | .memoryview | .range | .userList | .enum | .intEnum | .strEnum
  | .baseModel => false
  | _ => true

/-- The first failure in a list. -/
def firstFailure (fs : List (Option Failure)) : Option Failure :=
  fs.findSome? id

mutual

/-- Why no value can be read into a hint; `room` bounds how deep classes are opened, and `seen`
holds the classes that are open. -/
def schemaFailure (Γ : Classes) (room : Nat) (seen : List String) (h : Hint) :
    Option Failure :=
  match h with
  | .cls (.builtin b) => if isReadable b then none else some .noSchema
  | .cls (.named ..) => some .noSchema
  | .cls (.declared name) =>
    match Γ.find? name with
    | none => some .noSchema
    | some d =>
      match d.kind with
      | .enumeration _ => none
      | _ =>
        if !(Γ.isRecord (.declared name) || Γ.isModel (.declared name)) then some .noSchema
        else if seen.contains name then none
        else
          match room with
          | 0 => none
          | room + 1 => fieldsFailure Γ room (name :: seen) (Γ.fields (.declared name))
  | .any | .nothing => none
  | .row _ _ item => schemaFailure Γ room seen item
  | .dict _ key value =>
    (schemaFailure Γ room seen key).orElse fun _ => schemaFailure Γ room seen value
  | .tuple hs => anyFailure Γ room seen hs
  | .union hs => anyFailure Γ room seen hs
  | .literal _ => none
  | .annotated base _ => schemaFailure Γ room seen base
  | .classVar _ => some .unfinishedType
  | .initVar none => none
  | .initVar (some h) => schemaFailure Γ room seen h
  | .written _ meaning => schemaFailure Γ room seen meaning
  | .failing _ f => if f.kind.isA .unknownName then some .unfinishedType else some (.raised f)
  | .typeVar _ => none
  | .textObject _ | .forwardRef _ => some .unfinishedType
  | .noReturn | .never => some .noSchema
  | .object _ => some .noSchema
termination_by (room, sizeOf h)

/-- Why no value can be read into one of the hints. -/
def anyFailure (Γ : Classes) (room : Nat) (seen : List String) (hs : List Hint) :
    Option Failure :=
  match hs with
  | [] => none
  | h :: hs => (schemaFailure Γ room seen h).orElse fun _ => anyFailure Γ room seen hs
termination_by (room, sizeOf hs)

/-- Why no value can be read into one of the fields; faults other than unknown names come
first. -/
def fieldsFailure (Γ : Classes) (room : Nat) (seen : List String) (fields : List FieldDecl) :
    Option Failure :=
  let faults := fields.map fun f =>
    match f.hint with
    | .failing _ fault => if fault.kind.isA .unknownName then none else some (Failure.raised fault)
    | _ => none
  (firstFailure faults).orElse fun _ => eachFailure Γ room seen fields
termination_by (room, sizeOf fields + 1)

/-- Why no value can be read into one of the fields. -/
def eachFailure (Γ : Classes) (room : Nat) (seen : List String) (fields : List FieldDecl) :
    Option Failure :=
  match fields with
  | [] => none
  | f :: fields =>
    (schemaFailure Γ room seen f.hint).orElse fun _ => eachFailure Γ room seen fields
termination_by (room, sizeOf fields)
decreasing_by
  all_goals simp_wf
  · apply Prod.Lex.right; cases f; simp; omega
  · apply Prod.Lex.right; omega

end

/-- Why no value can be read into a hint, if none can. -/
def unreadable? (Γ : Classes) (h : Hint) : Option Failure :=
  match h with
  | .object v => if v.isHashable Γ then some .noSchema else some (.unhashable v.classOf.short)
  | h => schemaFailure Γ (Γ.decls.length + 1) [] h

end Hint
end Carryover
