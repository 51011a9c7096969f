import Carryover.Field.Declaration

/-!
# The fields of classes

The fields of a class follow from its declarations. They are found once and kept, until
directives are registered; keeping can be switched off.
-/

namespace Carryover

namespace Session

/-- The fields of a class, found anew. -/
def computeFields (s : Session) (c : ClassName) : Except Failure (List Field) :=
  match s.declarations c with
  | .ok ds => .ok (fieldsOf ds)
  | .error f => .error (.raised f)

end Session

/-- The fields of a class that carry directives. -/
def contextFields (c : ClassName) : Run (List Field) := do
  let s ← get
  match if s.caching then Entries.get? s.cache c else none with
  | some fields => return fields
  | none =>
    let fields ← liftExcept (s.computeFields c)
    if s.caching then
      Run.note (.fieldsFound fields.length c)
      modify fun s => { s with cache := Entries.put s.cache c fields }
    return fields

/-- Forgets the fields found so far. -/
def clearFields : Run Unit :=
  modify fun s => { s with cache := [] }

/-- Switches keeping on or off. -/
def setCaching (on : Bool) : Run Unit :=
  modify fun s => { s with caching := on }

/-- What is registered for an attribute: a directive, or a value that is none. -/
inductive Registration where
  | directive (d : Directive)
  | other (v : Value)

/-- The directives among registrations, unless there is something else. -/
def checkRegistrations :
    List (String × Registration) → Except Failure (Entries String Directive)
  | [] => .ok []
  | (name, .directive d) :: rest => do
    let ds ← checkRegistrations rest
    return (name, d) :: ds
  | (name, .other v) :: _ => .error (.notDirective name v.classOf.short)

/-- Declares directives for attributes of a class. Later ones take the place of earlier ones
for the same name. -/
def register (c : ClassName) (entries : List (String × Registration)) : Run Unit := do
  let ds ← liftExcept (checkRegistrations entries)
  modify fun s =>
    let earlier := (Entries.get? s.registered c).getD []
    { s with registered := Entries.put s.registered c (Entries.putAll earlier ds) }
  clearFields

end Carryover
