import Carryover.Class.Order
import Carryover.Entries
import Carryover.Failure

/-!
# Sessions

What operations share: the declared classes, the directives registered beside them, the fields
found so far, the types read so far, and the log. They run one after the other: locks, and what
another thread does meanwhile, are left out.
-/

namespace Carryover

/-- A field of a class that carries a directive. -/
structure Field where
  /-- The name as declared. -/
  name : String
  /-- The name of the attribute that holds the value. -/
  attr : String
  /-- The class that declares the field. -/
  owner : ClassName
  directive : Directive
  deriving DecidableEq

/-- What happens besides results. -/
inductive LogEntry where
  | fieldsFound (count : Nat) (cls : ClassName)
  | noFields (cls : ClassName)
  | noValue (field : String) (cls : ClassName)
  | notSequence (role name : String)
  | outOfBounds (index : Int) (role name : String) (size : Nat)
  deriving DecidableEq

namespace LogEntry

/-- Whether an entry warns of a mistake in a directive. -/
def isWarning : LogEntry → Bool
  | .noFields _ | .notSequence .. => true
  | _ => false

/-- The text of an entry. -/
def message : LogEntry → String
  | .fieldsFound count cls =>
    "Cached " ++ toString count ++ " context field(s) for " ++ cls.short
  | .noFields cls =>
    "The param of type `" ++ cls.qualified ++ "` has no field declaring a ContextParam, " ++
      "please don't use `ContextParam(is_param_in_property=True)` on it"
  | .noValue field cls =>
    "The field '" ++ field ++ "' of `" ++ cls.qualified ++ "` has no value, so pass this field"
  | .notSequence role name =>
    "the " ++ role ++ " named '" ++ name ++ "' is not a sequence, so the 'index' of " ++
      "ContextParam cannot be used on it"
  | .outOfBounds index role name size =>
    "The index '" ++ toString index ++ "' is out of bounds for the sequence " ++ role ++
      " named '" ++ name ++ "', whose size is '" ++ toString size ++ "', so pass this " ++ role

end LogEntry

/-- The state that operations share. -/
structure Session where
  classes : Classes
  /-- Directives for attributes of classes that are not annotated. -/
  registered : Entries ClassName (Entries String Directive)
  /-- The fields of the classes looked up so far. -/
  cache : Entries ClassName (List Field)
  /-- Whether the fields of a class are kept. -/
  caching : Bool
  /-- The types read so far, the last one first. -/
  adapters : List Hint
  log : List LogEntry

namespace Session

/-- A session in which nothing has happened. -/
def start (Γ : Classes) : Session :=
  ⟨Γ, [], [], true, [], []⟩

end Session

/-- An operation in a session: it may fail, and what happened before it failed stays. -/
abbrev Run (α : Type) := ExceptT Failure (StateM Session) α

namespace Run

/-- Adds an entry to the log. -/
def note (e : LogEntry) : Run Unit :=
  modify fun s => { s with log := s.log ++ [e] }

/-- The declared classes. -/
def classes : Run Classes := do
  return (← get).classes

end Run
end Carryover
