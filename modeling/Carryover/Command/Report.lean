import Carryover.Action.Basic
import Carryover.Command.Folder
import Carryover.Command.Request
import Carryover.Extract

/-!
# Reports

What comes of a request: a text that is printed, a remark that there is nothing to print, or a
failure. A failure that callers deal with is told of in a line; any other one ends the program.

| request | text |
| --- | --- |
| fields | a table with a line for each field |
| extract | the merged context as a JSON object, with a line for each entry |
| decode | the value: a text, a flag or a number as it is, any other as JSON |
-/

namespace Carryover
namespace Command

/-- What a request gives. -/
inductive Reply where
  | result (text : String)
  /-- There is nothing to print, for the reason given. -/
  | remark (text : String)
  deriving DecidableEq

/-- How a command line ends. -/
inductive Ending where
  | replied (r : Reply)
  /-- The failure is told of. -/
  | failed (f : Failure)
  /-- The failure ends the program. -/
  | aborted (f : Failure)
  | refused (r : Refused)
  deriving DecidableEq

/-! ## Fields -/

/-- The headings of the table of fields. -/
def headings : List String := ["FIELD", "KEY", "INDEX", "FLATTEN", "DECLARED IN"]

/-- The cells for a field. -/
def fieldCells (f : Field) : List String :=
  let d := f.directive
  [f.name,
    if d.flatten then "-" else d.resolve f.name,
    if 0 ≤ d.index then toString d.index else "-",
    if d.flatten then "yes" else "no",
    f.owner.short]

/-- The widths of the columns of a table. -/
def columnWidths (rows : List (List String)) : List Nat :=
  rows.foldl (fun widths row => List.zipWith max widths (row.map String.length))
    (headings.map fun _ => 0)

/-- Drops the blank characters at the end of a line. -/
def trimEnd (cs : List Char) : List Char :=
  (cs.reverse.dropWhile Text.isBlank).reverse

/-- A line of a table: its cells filled up to the widths of their columns. -/
def tableLine (widths : List Nat) (cells : List String) : String :=
  let filled := List.zipWith (fun cell width =>
    cell ++ String.ofList (List.replicate (width - cell.length) ' ')) cells widths
  String.ofList (trimEnd (String.intercalate "  " filled).toList)

/-- The lines of a table. -/
def tableLines (rows : List (List String)) : List String :=
  rows.map (tableLine (columnWidths rows))

/-- The class that an item is. -/
def Item.class? : Item → Option ClassName
  | .cls c => some c
  | .form .any => some (.named (some "typing") "Any")
  | _ => none

/-- The fields of a class as a table. -/
def replyFields (s : Scope) (path : String) : Run Reply := do
  let item ← liftExcept (s.find path)
  match item.class? with
  | none => throw (.notClass path)
  | some c =>
    let fields ← contextFields c
    if fields.isEmpty then return .remark (c.short ++ " declares no context fields")
    else return .result (String.intercalate "\n" (tableLines (headings :: fields.map fieldCells)))

/-! ## Extraction -/

/-- The class of the object that an item is. -/
def Item.thingClass : Item → ClassName
  | .thing c => c
  | .value v => v.classOf
  | .home _ => .named none "module"
  | .factory .. => .named none "function"
  | .routine _ => .named none "builtin_function_or_method"
  | .cls _ | .form _ => .named none "type"

/-- Extracts the context of an item. What is no value has no fields. -/
def extractItem (item : Item) : Run Context :=
  match item with
  | .value v => extractContext v
  | item => do
    let _ ← contextFields item.thingClass
    Run.note (.noFields item.thingClass)
    return []

/-- A context as a JSON object with a line for each entry. -/
def contextLines (Γ : Classes) (c : Context) : Except Failure String :=
  match Γ.strictJson? (.dict (c.map fun (k, v) => (.text k, v))) with
  | some (.object entries) => .ok (Json.renderLines entries)
  | _ => .error .unwritable

/-- The context of an object, as it is stored. -/
def replyExtract (s : Scope) (path : String) : Run Reply := do
  let item ← liftExcept (s.find path)
  let item ← liftExcept (s.call item)
  let entries ← extractItem item
  match (mergeMany s.classes entries).run [] with
  | (.ok _, context) => return .result (← liftExcept (contextLines s.classes context))
  | (.error e, _) => throw e

/-! ## Reading -/

/-- The types that have names of their own. -/
def typeNames : Entries String Builtin :=
  [("str", .str), ("int", .int), ("float", .float), ("bool", .bool), ("list", .list),
    ("dict", .dict)]

/-- The item that the name of a type stands for. -/
def Scope.findType (s : Scope) (name : String) : Except Failure Item :=
  match Entries.get? typeNames name with
  | some b => .ok (.cls (.builtin b))
  | none => s.find name

/-- The text of an item that is no type. -/
def Item.opaqueName : Item → String
  | .factory name _ => declaredHome ++ "." ++ name
  | .routine name => name
  | .home path => "<module '" ++ path ++ "'>"
  | item => item.thingClass.qualified

/-- Calls a function with the entries of a JSON text. -/
def readCall (Γ : Classes) (called : Json → Option Outcome) (v : Value) : Except Failure Value := do
  let text ← Γ.storedText v
  match (Json.parse? text).bind called with
  | none => .error .unfit
  | some (.gives w) => .ok w
  | some (.raises f) => .error (.raised f)

/-- Reads a value as the type that an item is. A function stands for what it gives when it is called
with the entries of the value; of anything else that is no type nothing is read. -/
def readAsItem (s : Scope) (a : Action) (key : String) (item : Item) : Run Value :=
  match item with
  | .cls c => a.read key (some (.cls c))
  | .form h => a.read key (some h)
  | .value .null => a.read key none
  | .value v => a.read key (some (.object v))
  | item => do
    match ← a.read key none with
    | .null => return .null
    | v =>
      let result := match s.calledWith? item with
        | some called => readCall s.classes called v
        | none => .error .noSchema
      liftExcept (result.mapError fun e =>
        if e.isConverted then .conversion key v.classOf.qualified item.opaqueName e else e)

/-- The stored text of a context, given the text of a file: an object without an entry for the
context is the context itself. -/
def storedForm (text : String) : Except Failure String :=
  match Json.parse? text with
  | none => .error .malformedJson
  | some (.object entries) =>
    if Entries.has entries Action.storedKey then .ok text
    else .ok (Json.render (.object [(Action.storedKey, .object entries)]))
  | some _ => .ok text

/-- A value as it is printed. -/
def printed (Γ : Classes) (v : Value) : Except Failure String :=
  if v.isPrimitive then .ok (Γ.plain v) else Γ.jsonTextOf v

/-- The text of a file. -/
def fileText (read : String → Except FileFault (List UInt8)) (file : String) :
    Except Failure String :=
  match read file with
  | .error f => .error (.file file f)
  | .ok bytes =>
    match Text.utf8 bytes with
    | .ok text => .ok text
    | .error e => .error (.file file (.undecodable e))

/-- The action in a file. -/
def fileAction (text : String) : Except Failure Action := do
  let stored ← storedForm text
  Action.ofText? (some stored) []

/-- A value of a stored context, read as a type. -/
def replyDecode (s : Scope) (read : String → Except FileFault (List UInt8)) (file : String)
    (key : Option String) (type : String) : Run Reply := do
  let text ← liftExcept (fileText read (shorten file))
  let a ← liftExcept (fileAction text)
  match key with
  | none => throw (.unhashable "list")
  | some key =>
    if !Entries.has a.context key then throw (.missingKey key)
    else
      let item ← liftExcept (s.findType type)
      let v ← readAsItem s a key item
      return .result (← liftExcept (printed s.classes v))

/-! ## Requests -/

/-- Answers a request. -/
def reply (s : Scope) (read : String → Except FileFault (List UInt8)) : Request → Run Reply
  | .fields path => replyFields s path
  | .extract path => replyExtract s path
  | .decode file key type => replyDecode s read file key type

/-- Carries out a command line; the session holds the log. -/
def perform (s : Scope) (read : String → Except FileFault (List UInt8)) (words : List String)
    (session : Session) : Ending × Session :=
  match Request.read words with
  | .error r => (.refused r, session)
  | .ok request =>
    match (reply s read request).run session with
    | (.ok r, session) => (.replied r, session)
    | (.error f, session) => (if f.isTold then .failed f else .aborted f, session)

end Command
end Carryover
