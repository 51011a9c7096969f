import Carryover.Fault
import Carryover.Text.Utf8

/-!
# Failures

The ways in which an operation can fail, each with the text that tells of it. A failure belongs
to classes, by which callers decide whether they deal with it.

| class | failures |
| --- | --- |
| `own` | the failures of a read and of an extraction, with their causes, and a missing key |
| `badValue` | a value that does not fit |
| `badType` | an argument or a target of the wrong kind |
| `noSchema` | a form of types that nothing can be read into |
| `missingModule`, `missingAttribute`, `file` | what a command does not find |

A failure of none of these classes is one that no caller deals with.
-/

namespace Carryover

/-- Why arguments do not bind to parameters. -/
inductive BindingFault where
  | missing (name : String)
  | tooMany
  | twice (name : String)
  | unexpected (name : String)
  | positionOnly (name : String)
  deriving DecidableEq

/-- The text of a failed binding. -/
def BindingFault.message : BindingFault → String
  | .missing name => "missing a required argument: " ++ Text.quoted name
  | .tooMany => "too many positional arguments"
  | .twice name => "multiple values for argument " ++ Text.quoted name
  | .unexpected name => "got an unexpected keyword argument " ++ Text.quoted name
  | .positionOnly name =>
    Text.quoted name ++ " parameter is positional only, but was passed as a keyword"

/-- Why a file cannot be read as text. -/
inductive FileFault where
  | absent
  | directory
  /-- The path goes through a file. -/
  | notDirectory
  | undecodable (e : Text.Utf8Error)
  deriving DecidableEq

/-- What went wrong. -/
inductive Failure where
  /-- Declared code raised a fault. -/
  | raised (f : Fault)
  | nothingToExtract
  | nothingToStore
  | unusableTarget (target : String)
  | unresolvedTarget (target : String)
  | notDirective (name cls : String)
  | binding (f : BindingFault)
  /-- A constructor refused its arguments. -/
  | refused (message : String)
  /-- A text is not JSON. -/
  | malformedJson
  /-- JSON does not fit the type to be read. -/
  | unfit
  | noSchema
  /-- A type has annotations that cannot be evaluated. -/
  | unfinishedType
  /-- A value of a kind that has no place in a table of keys. -/
  | unhashable (kind : String)
  /-- A value has no JSON text. -/
  | unwritable
  /-- A signalling NaN was compared. -/
  | signalling
  | beyondStart
  /-- Flattening went deeper than the values do. -/
  | tooDeep
  | notObject (kind : String)
  | entryNotObject (kind : String)
  | extraction (target : String) (cause : Failure)
  | conversion (key source target : String) (cause : Failure)
  | badPath (path : String)
  /-- A setting is neither on nor off. -/
  | notFlag (name text : String)
  | notClass (target : String)
  | missingKey (key : String)
  | missingModule (message : String)
  | missingAttribute (message : String)
  | file (name : String) (f : FileFault)
  deriving DecidableEq

namespace Failure

/-- The classes of a failure. -/
def classes : Failure → List FailureClass
  | .raised f => f.kind.classes
  | .conversion .. | .missingKey _ => [.own]
  | .extraction .. => [.own, .extraction]
  | .nothingToExtract | .nothingToStore | .malformedJson | .unfit | .unwritable
  | .notObject _ | .entryNotObject _ | .badPath _ | .notFlag .. => [.badValue]
  | .unusableTarget _ | .unresolvedTarget _ | .notDirective .. | .binding _ | .refused _
  | .unhashable _ | .notClass _ => [.badType]
  | .noSchema => [.noSchema]
  | .missingModule _ => [.missingModule]
  | .missingAttribute _ => [.missingAttribute]
  | .file _ (.undecodable _) => [.badValue]
  | .file .. => [.file]
  | .unfinishedType | .signalling | .beyondStart | .tooDeep => []

/-- Whether a failure belongs to a class. -/
def isA (e : Failure) (c : FailureClass) : Bool :=
  e.classes.contains c

/-- Whether a failure is an error; otherwise it asks the program to end. -/
def isError : Failure → Bool
  | .raised f => f.kind.isError
  | _ => true

/-- The classes of the failures that a command tells of. -/
def toldClasses : List FailureClass :=
  [.own, .extraction, .missingModule, .missingAttribute, .file, .badType, .badValue]

/-- Whether a command tells of a failure. -/
def isTold (e : Failure) : Bool :=
  toldClasses.any e.isA

/-- A byte as two hexadecimal digits. -/
def byteText (b : UInt8) : String :=
  "0x" ++ String.ofList (Text.hexDigits 2 b.toNat)

/-- Why bytes are not UTF-8, in words. -/
def utf8Reason : Text.Utf8Fault → String
  | .start => "invalid start byte"
  | .continuation => "invalid continuation byte"
  | .truncated => "unexpected end of data"

/-- The text of bytes that are not UTF-8. -/
def utf8Message (e : Text.Utf8Error) : String :=
  let place :=
    if e.first = e.last then "byte " ++ byteText e.byte ++ " in position " ++ toString e.first
    else "bytes in position " ++ toString e.first ++ "-" ++ toString e.last
  "'utf-8' codec can't decode " ++ place ++ ": " ++ utf8Reason e.fault

/-- The text of a file that cannot be read. -/
def fileMessage (name : String) : FileFault → String
  | .absent => "[Errno 2] No such file or directory: " ++ Text.quoted name
  | .directory => "[Errno 21] Is a directory: " ++ Text.quoted name
  | .notDirectory => "[Errno 20] Not a directory: " ++ Text.quoted name
  | .undecodable e => utf8Message e

/-- The text that tells of a failure. -/
def message : Failure → String
  | .raised f => f.render
  | .nothingToExtract => "Cannot fetch the action context from None"
  | .nothingToStore => "None cannot be stored in the action context"
  | .unusableTarget target =>
    "The target type cannot be " ++ target ++
      ", because the stored value may be present. Use a type that can hold a value."
  | .unresolvedTarget target => "The target type must be a resolved type, got " ++ target ++ "."
  | .notDirective name cls =>
    "Directive for '" ++ name ++ "' must be a ContextParam, got " ++ cls
  | .binding f => f.message
  | .refused text => text
  | .malformedJson => "invalid JSON"
  | .unfit => "the JSON does not fit the type"
  | .noSchema => "no value can be read into the type"
  | .unfinishedType => "the type is not fully defined"
  | .unhashable kind => "unhashable type: " ++ Text.quoted kind
  | .unwritable => "the value has no JSON text"
  | .signalling => "comparison with a signalling NaN"
  | .beyondStart => "index out of range"
  | .tooDeep => "maximum recursion depth exceeded"
  | .notObject kind => "Application data must be a JSON object, got " ++ kind
  | .entryNotObject kind => "'actionContext' must be a JSON object, got " ++ kind
  | .extraction target cause =>
    "Failed to fetch the action context from '" ++ target ++ "': " ++ cause.message
  | .conversion key source target _ =>
    "Failed to convert the action context with key '" ++ key ++ "' from '" ++ source ++
      "' to '" ++ target ++ "'."
  | .badPath path => "Expected MODULE:ATTRIBUTE, got '" ++ path ++ "'"
  | .notFlag name text => name ++ " must be a boolean, got " ++ Text.quoted text
  | .notClass target => "'" ++ target ++ "' is not a class"
  | .missingKey key => "No context value for key '" ++ key ++ "'"
  | .missingModule text => text
  | .missingAttribute text => text
  | .file name f => fileMessage name f

end Failure
end Carryover
