import Carryover.Command.Words

/-!
# Requests

What a command line asks for.

| words | request |
| --- | --- |
| `fields PATH` | the fields of a class |
| `extract PATH` | the context of an object, or of what a callable gives |
| `decode FILE KEY [--type TYPE]` | a value of a stored context, as a text if no type is given |

An option before the name of the command is not known to any command, but a question for help
there or after the name is answered all the same.
-/

namespace Carryover
namespace Command

/-- The commands. -/
inductive Verb where
  | fields
  | extract
  | decode
  deriving DecidableEq

/-- What a command line asks for. -/
inductive Request where
  | fields (path : String)
  | extract (path : String)
  /-- A key can be missing; no stored context has it then. -/
  | decode (file : String) (key : Option String) (type : String)
  deriving DecidableEq

/-- A command line that is not carried out: the command it named, if it got so far, and why. -/
structure Refused where
  verb : Option Verb
  why : Refusal
  deriving DecidableEq

namespace Verb

/-- The command of a name. -/
def ofName? : String → Option Verb
  | "fields" => some .fields
  | "extract" => some .extract
  | "decode" => some .decode
  | _ => none

/-- The number of values that a command takes. -/
def count : Verb → Nat
  | .fields | .extract => 1
  | .decode => 2

/-- The option that names a type. -/
def typeName : String := "--type"

/-- The options of a command. -/
def options : Verb → List String
  | .fields | .extract => []
  | .decode => [typeName]

/-- The request that a command makes of a complete line. -/
def request? (v : Verb) (l : Line) : Option Request :=
  match v, l.values with
  | .fields, [some path] => some (.fields path)
  | .extract, [some path] => some (.extract path)
  | .decode, [some file, key] =>
    some (.decode file key ((Entries.get? l.options typeName).getD "str"))
  | _, _ => none

/-- The request that the words after the name of a command make. -/
def read (v : Verb) (texts : List String) : Except Refused Request :=
  match readLine v.count v.options texts with
  | .error why => .error ⟨some v, why⟩
  | .ok l =>
    match v.request? l with
    | some r => .ok r
    | none => .error ⟨some v, .misuse⟩

end Verb

/-- A request that stands behind an unknown option: only a question for help is answered. -/
def spoiled : Except Refused Request → Except Refused Request
  | .ok _ => .error ⟨none, .misuse⟩
  | .error e => .error e

namespace Request

/-- The request of a command line. -/
def read : List String → Except Refused Request
  | [] => .error ⟨none, .misuse⟩
  | t :: ts =>
    if t = "--" then .error ⟨none, .misuse⟩
    else
      match wordOf [] t with
      | some (.value name) =>
        match Verb.ofName? name with
        | some v => v.read ts
        | none => .error ⟨none, .misuse⟩
      | some (.help true) => .error ⟨none, .help⟩
      | some .unknown => spoiled (read ts)
      | _ => .error ⟨none, .misuse⟩

end Request
end Command
end Carryover
