import Carryover.Command.Item

/-!
# The catalogue of modules

The modules that a path can name besides the declared one, with what they hold. A class with
values of its own stands in the module that its name is shown with, or in `builtins`.
-/

namespace Carryover
namespace Command

/-- What a module holds, by name. -/
abbrev Shelf := Entries String Item

/-- The built-in classes that stand in modules. -/
def shelvedBuiltins : List Builtin :=
  [.object, .bool, .int, .float, .complex, .str, .bytes, .bytearray, .memoryview, .list, .tuple,
    .dict, .set, .frozenset, .range, .decimal, .fraction, .date, .datetime, .time, .timedelta,
    .uuid, .number, .sequence, .jsonText, .deque, .userList, .enum, .intEnum, .strEnum]

/-- The module of a built-in class. -/
def homeOf (b : Builtin) : String :=
  b.nameParts.1.getD "builtins"

/-- The built-in classes of a module. -/
def builtinShelf (path : String) : Shelf :=
  (shelvedBuiltins.filter fun b => homeOf b == path).map fun b =>
    (b.nameParts.2, .cls (.builtin b))

/-- Classes of a module of which only the names are known. -/
def namedShelf (home : Option String) (names : List String) : Shelf :=
  names.map fun n => (n, .cls (.named home n))

/-- Routines of a module. -/
def routineShelf (names : List String) : Shelf :=
  names.map fun n => (n, .routine n)

/-- The classes of `builtins` without values of their own. -/
def builtinNames : List String :=
  ["classmethod", "enumerate", "filter", "map", "property", "reversed", "slice", "staticmethod",
    "super", "type", "zip", "ArithmeticError", "AssertionError", "AttributeError",
    "BaseException", "BaseExceptionGroup", "BlockingIOError", "BrokenPipeError", "BufferError",
    "BytesWarning", "ChildProcessError", "ConnectionAbortedError", "ConnectionError",
    "ConnectionRefusedError", "ConnectionResetError", "DeprecationWarning", "EOFError",
    "EncodingWarning", "Exception", "ExceptionGroup", "FileExistsError", "FileNotFoundError",
    "FloatingPointError", "FutureWarning", "GeneratorExit", "ImportError", "ImportWarning",
    "IndentationError", "IndexError", "InterruptedError", "IsADirectoryError", "KeyError",
    "KeyboardInterrupt", "LookupError", "MemoryError", "ModuleNotFoundError", "NameError",
    "NotADirectoryError", "NotImplementedError", "OSError", "OverflowError",
    "PendingDeprecationWarning", "PermissionError", "ProcessLookupError", "RecursionError",
    "ReferenceError", "ResourceWarning", "RuntimeError", "RuntimeWarning",
    "StopAsyncIteration", "StopIteration", "SyntaxError", "SyntaxWarning", "SystemError",
    "SystemExit", "TabError", "TimeoutError", "TypeError", "UnboundLocalError",
    "UnicodeDecodeError", "UnicodeEncodeError", "UnicodeError", "UnicodeTranslateError",
    "UnicodeWarning", "UserWarning", "ValueError", "Warning", "ZeroDivisionError"]

/-- The routines of `builtins`. -/
def builtinRoutines : List String :=
  ["abs", "aiter", "all", "anext", "any", "ascii", "bin", "breakpoint", "callable", "chr",
    "compile", "delattr", "dir", "divmod", "eval", "exec", "format", "getattr", "globals",
    "hasattr", "hash", "hex", "id", "input", "isinstance", "issubclass", "iter", "len",
    "locals", "max", "min", "next", "oct", "open", "ord", "pow", "print", "repr", "round",
    "setattr", "sorted", "sum", "vars"]

/-- The special forms of `typing` that this program reads as types. -/
def typingForms : Shelf :=
  [("Any", .form .any), ("NoReturn", .form .noReturn), ("Never", .form .never),
    ("List", .form (.row .list .capital .any)), ("Set", .form (.row .set .capital .any)),
    ("Dict", .form (.dict .capital .any .any))]

/-- The other forms and routines of `typing`. -/
def typingRoutines : List String :=
  ["Annotated", "Callable", "ClassVar", "Concatenate", "Deque", "Final", "FrozenSet",
    "Iterable", "Iterator", "Literal", "LiteralString", "Mapping", "NewType", "Optional",
    "Required", "Self", "Sequence", "Tuple", "Type", "TypeAlias", "Union", "Unpack", "cast",
    "get_args", "get_origin", "get_type_hints", "overload"]

/-- The classes of `decimal` besides the class of decimals. -/
def decimalNames : List String :=
  ["Clamped", "Context", "ConversionSyntax", "DecimalException", "DecimalTuple",
    "DivisionByZero", "DivisionImpossible", "DivisionUndefined", "FloatOperation", "Inexact",
    "InvalidContext", "InvalidOperation", "Overflow", "Rounded", "Subnormal", "Underflow"]

/-- The classes of `collections` without values of their own. -/
def collectionNames : List String :=
  ["ChainMap", "Counter", "OrderedDict", "UserDict", "UserString", "defaultdict"]

/-- The class of directives. -/
def directiveClass : ClassName :=
  .named (some "action_context.core.directive") "ContextParam"

/-- The class of actions. -/
def actionClass : ClassName :=
  .named (some "action_context.business") "BusinessActionContext"

/-- The class of fields. -/
def fieldClass : ClassName :=
  .named (some "action_context.core.registry") "ContextField"

/-- The classes of failures. -/
def failureShelf : Shelf :=
  namedShelf (some "action_context.errors")
    ["ActionContextError", "ConversionError", "FatalExtractionError"]

/-- A class under its own name. -/
def shelved (c : ClassName) : String × Item := (c.short, .cls c)

/-- The modules with what they hold. -/
def catalog : Entries String Shelf :=
  [("builtins",
      builtinShelf "builtins" ++ namedShelf none builtinNames ++ routineShelf builtinRoutines ++
        [("None", .value .null), ("True", .value (.bool true)), ("False", .value (.bool false))]),
    ("typing", typingForms ++ routineShelf typingRoutines),
    ("decimal",
      builtinShelf "decimal" ++ namedShelf (some "decimal") decimalNames ++
        routineShelf ["getcontext", "localcontext", "setcontext"]),
    ("collections",
      builtinShelf "collections" ++ namedShelf (some "collections") collectionNames ++
        routineShelf ["namedtuple"]),
    ("collections.abc", builtinShelf "collections.abc"),
    ("datetime", builtinShelf "datetime"),
    ("enum", builtinShelf "enum"),
    ("fractions", builtinShelf "fractions"),
    ("numbers", builtinShelf "numbers"),
    ("uuid", builtinShelf "uuid"),
    ("action_context",
      [shelved actionClass, shelved (.builtin .jsonText), shelved directiveClass,
        shelved fieldClass] ++ failureShelf),
    ("action_context.business", [shelved actionClass]),
    ("action_context.core", []),
    ("action_context.core.coercer", [shelved (.builtin .jsonText)]),
    ("action_context.core.directive", [shelved directiveClass]),
    ("action_context.core.registry", [shelved fieldClass, shelved directiveClass]),
    ("action_context.errors", failureShelf)]

/-- What directives hold: the defaults of their parts, and two methods. -/
def directiveShelf : Shelf :=
  [("value", .value (.text "")), ("param_name", .value (.text "")), ("index", .value (.int (-1))),
    ("is_param_in_property", .value (.bool false)), ("key_name", .routine "key_name"),
    ("resolve_key", .routine "resolve_key")]

/-- The module in which the classes, values and factories of a scope are declared. -/
def declaredHome : String := "m"

namespace Scope

variable (s : Scope)

/-- Whether a path names a module. -/
def isHome (path : String) : Bool :=
  path == declaredHome || Entries.has catalog path

/-- Whether a module has parts that are modules. -/
def isPackage (path : String) : Bool :=
  catalog.any fun (other, _) => (path ++ ".").toList.isPrefixOf other.toList

/-- What the declared module holds under a name. -/
def declared? (name : String) : Option Item :=
  match Entries.get? s.factories name, Entries.get? s.objects name with
  | some o, _ => some (.factory name o)
  | none, some v => some (.value v)
  | none, none => (s.classes.find? name).map fun d => .cls (.declared d.name)

/-- What a module holds under a name: a part of it comes last. -/
def homeItem? (path name : String) : Option Item :=
  if path == declaredHome then s.declared? name
  else
    match (Entries.get? catalog path).bind fun shelf => Entries.get? shelf name with
    | some item => some item
    | none =>
      let part := path ++ "." ++ name
      if Entries.has catalog part then some (.home part) else none

/-- The attribute of an item. -/
def attributeOf (item : Item) (name : String) : Except Failure Item :=
  match item with
  | .home path =>
    match s.homeItem? path name with
    | some item => .ok item
    | none =>
      .error (.missingAttribute
        ("module '" ++ path ++ "' has no attribute '" ++ name ++ "'"))
  | .cls (.declared cls) => s.classAttribute cls name
  | .cls c =>
    match (if c = directiveClass then Entries.get? directiveShelf name else none) with
    | some item => .ok item
    | none => .error (noClassAttribute c name)
  | .form .any => .error (noClassAttribute (.named none "Any") name)
  | .form _ => .error (.missingAttribute name)
  | .value v => s.valueAttribute v name
  | .factory .. => .error (noInstanceAttribute (.named none "function") name)
  | .routine _ => .error (noInstanceAttribute (.named none "builtin_function_or_method") name)
  | .thing c => .error (noInstanceAttribute c name)

end Scope
end Command
end Carryover
