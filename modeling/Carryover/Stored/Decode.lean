import Carryover.Class.Construct
import Carryover.Hint.Schema
import Carryover.Hint.Text
import Carryover.Json.Reader
import Carryover.Session
import Carryover.Stored.Encode

/-!
# Typed reads

A stored value is read as a value of a target type.

| target | result |
| --- | --- |
| no type, or one without values | refused |
| any type, or a class that the value is an instance of | the value |
| the class of texts | the text of the value |
| any other | the JSON text of the value, fitted to the target |
| a plain class | an object made of the entries of the JSON object |

A flag counts as an instance of its own class and of the class of all objects alone. The absent
value is read as itself. A type that has been read once is kept, and a type that differs from
it in the order of alternatives alone is read as the kept one; 256 types are kept, the type of
the arguments of plain classes among them.
-/

namespace Carryover

namespace Classes

/-- Refuses the targets that no value can be read as. -/
def checkTarget (Γ : Classes) (target : Hint) : Except Failure Unit :=
  match target with
  | .nothing | .object .null => .error (.unusableTarget "None")
  | .cls (.builtin .noneType) => .error (.unusableTarget "<class 'NoneType'>")
  | .noReturn | .never => .error (.unusableTarget (target.render Γ))
  | .textObject _ | .forwardRef _ | .typeVar _ => .error (.unresolvedTarget (target.render Γ))
  | .object v =>
    if v.asText?.isSome then .error (.unresolvedTarget (target.render Γ)) else .ok ()
  | _ => .ok ()

/-- Whether a value is read as it is: it is an instance of the target, and a flag only counts
as a flag or as an object. -/
def isAlready (Γ : Classes) (v : Value) (target : Hint) : Bool :=
  match target with
  | .any => true
  | .cls c =>
    Γ.isInstance v c &&
      match v with
      | .bool _ => c == .builtin .bool || c == .builtin .object
      | _ => true
  | _ => false

/-- Fits a JSON text to a hint. -/
def readAs (Γ : Classes) (target : Hint) (text : String) : Except Failure Value :=
  match Json.parse? text with
  | none => .error .unfit
  | some j =>
    match Json.fit Γ target j with
    | .ok f => .ok f.value
    | .error e => .error e

/-- Makes an object of a class of the entries of a JSON object. -/
def readArguments (Γ : Classes) (c : ClassName) (text : String) : Except Failure Value :=
  match Json.parse? text with
  | some (.object entries) => Γ.instantiate c (entries.map fun (k, j) => (k, j.toValue))
  | _ => .error .unfit

/-- The JSON text of a stored value: a text is one already. -/
def storedText (Γ : Classes) (v : Value) : Except Failure String :=
  match v.asText? with
  | some s => .ok s
  | none => Γ.jsonTextOf v

end Classes

/-- The number of types that are kept. -/
def adapterLimit : Nat := 256

/-- The kept type that is the same as a target, or the target, which is then kept. -/
def adapterFor (target : Hint) : Run Hint := do
  let s ← get
  let adapter := (s.adapters.find? fun h => h.same target).getD target
  let others := s.adapters.eraseP fun h => h.same target
  set { s with adapters := (adapter :: others).take adapterLimit }
  return adapter

/-- The type that named arguments are read as. -/
def argumentsHint : Hint :=
  .dict .builtin (.builtin .str) .any

/-- The class that makes an object of named arguments where nothing can be read into a target. -/
def plainClass? (target : Hint) (e : Failure) : Option ClassName :=
  match target with
  | .cls c => if e.isA .noSchema then some c else none
  | _ => none

/-- Reads a JSON text as a value of a target. -/
def readText (target : Hint) (text : String) : Run Value := do
  let Γ ← Run.classes
  match target.unreadable? Γ with
  | none =>
    let adapter ← adapterFor target
    liftExcept (Γ.readAs adapter text)
  | some e =>
    match plainClass? target e with
    | some c =>
      let _ ← adapterFor argumentsHint
      liftExcept (Γ.readArguments c text)
    | none => throw e

/-- Whether a read tells of a failure as that of the conversion. -/
def Failure.isConverted (e : Failure) : Bool :=
  e.isA .badValue || e.isA .badType || e.isA .noSchema

/-- Reads the value stored under a key as a value of a target. -/
def decode (key : String) (v : Value) (target : Hint) : Run Value := do
  let Γ ← Run.classes
  liftExcept (Γ.checkTarget target)
  match v with
  | .null => return .null
  | v =>
    if Γ.isAlready v target then return v
    else
      match target with
      | .cls (.builtin .str) => return .text (Γ.plain v)
      | target =>
        tryCatch
          (do
            let text ← liftExcept (Γ.storedText v)
            readText target text)
          fun e =>
            if e.isConverted then
              throw (.conversion key v.classOf.qualified (target.render Γ) e)
            else throw e

end Carryover
