import Carryover.Text.Quoted

/-!
# Faults of declared code

What the code of a declared class may raise while it computes an attribute, runs a constructor
or a factory, or while a written type is evaluated.

Callers deal with failures by their classes. A fault may be of a class of its own below several
others, so the kind of a fault tells which of the classes that somebody looks for it belongs to.
-/

namespace Carryover

/-- The classes of failures that somebody looks for: a caller that deals with them, or the text
that tells of them. -/
inductive FailureClass where
  /-- A failure that this library defines. -/
  | own
  /-- A failed extraction, which is a failure of the library's own. -/
  | extraction
  | badValue
  | badType
  /-- A form of types that nothing can be read into. -/
  | noSchema
  /-- A key that a mapping misses. -/
  | missingEntry
  | missingModule
  | missingAttribute
  | unknownName
  | file
  /-- A request to end the program, with a status of its own. -/
  | exit
  deriving DecidableEq

/-- The kind of a fault. -/
structure FaultKind where
  /-- The name of its class. -/
  label : String
  /-- The classes somebody looks for to which the class belongs. -/
  classes : List FailureClass
  /-- Whether it is an error. Otherwise it asks the program to end, and no caller that deals with
  all errors deals with it. -/
  isError : Bool
  deriving DecidableEq

namespace FaultKind

/-- Whether a fault of the kind belongs to a class. -/
def isA (k : FaultKind) (c : FailureClass) : Bool :=
  k.classes.contains c

/-! The kinds that have a name here. -/

def runtime : FaultKind := ⟨"RuntimeError", [], true⟩
def value : FaultKind := ⟨"ValueError", [.badValue], true⟩
def type : FaultKind := ⟨"TypeError", [.badType], true⟩
def key : FaultKind := ⟨"KeyError", [.missingEntry], true⟩
def missingAttribute : FaultKind := ⟨"AttributeError", [.missingAttribute], true⟩
def lookup : FaultKind := ⟨"LookupError", [], true⟩
def zeroDivision : FaultKind := ⟨"ZeroDivisionError", [], true⟩
def overflow : FaultKind := ⟨"OverflowError", [], true⟩
def name : FaultKind := ⟨"NameError", [.unknownName], true⟩
def syntaxError : FaultKind := ⟨"SyntaxError", [], true⟩
def missingModule : FaultKind := ⟨"ModuleNotFoundError", [.missingModule], true⟩
def file : FaultKind := ⟨"OSError", [.file], true⟩
def extraction : FaultKind := ⟨"FatalExtractionError", [.own, .extraction], true⟩
def exit : FaultKind := ⟨"SystemExit", [.exit], false⟩

end FaultKind

/-- A fault with its message. -/
structure Fault where
  kind : FaultKind
  message : String
  deriving DecidableEq

/-- The fault of counting what is more than can be counted. -/
def Fault.uncountable : Fault :=
  ⟨.overflow, "int too large to convert to C ssize_t"⟩

/-- The text of a fault: its message, but a missing key between quotes. -/
def Fault.render (f : Fault) : String :=
  if f.kind.isA .missingEntry then Text.quoted f.message else f.message

end Carryover
