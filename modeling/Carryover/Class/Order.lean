import Carryover.Class.Decl

/-!
# The order of a class and its bases

The order of a class puts the class first and every class before its bases, keeps the order in
which each class lists its bases, and merges the orders of the bases: at each step the first
head that is in no tail comes next.

A value is an instance of the classes in the order of its own class. Two classes have instances
besides: `number` all numbers and `sequence` the rows with positions, the texts and the bytes.
-/

namespace Carryover

-- Sums start from the zero of the core library, whatever other zeros are in scope.
attribute [local instance (high)] Zero.ofOfNat0

namespace Builtin

/-- The module of a built-in class, if its name is shown with one, and its name. -/
def nameParts : Builtin → Option String × String
  | .object => (none, "object")
  | .noneType => (none, "NoneType")
  | .bool => (none, "bool")
  | .int => (none, "int")
  | .float => (none, "float")
  | .complex => (none, "complex")
  | .str => (none, "str")
  | .bytes => (none, "bytes")
  | .bytearray => (none, "bytearray")
  | .memoryview => (none, "memoryview")
  | .list => (none, "list")
  | .tuple => (none, "tuple")
  | .dict => (none, "dict")
  | .set => (none, "set")
  | .frozenset => (none, "frozenset")
  | .range => (none, "range")
  | .decimal => (some "decimal", "Decimal")
  | .fraction => (some "fractions", "Fraction")
  | .date => (some "datetime", "date")
  | .datetime => (some "datetime", "datetime")
  | .time => (some "datetime", "time")
  | .timedelta => (some "datetime", "timedelta")
  | .uuid => (some "uuid", "UUID")
  | .number => (some "numbers", "Number")
  | .sequence => (some "collections.abc", "Sequence")
  | .jsonText => (some "action_context.core.coercer", "JsonText")
  | .deque => (some "collections", "deque")
  | .userList => (some "collections", "UserList")
  | .enum => (some "enum", "Enum")
  | .intEnum => (some "enum", "IntEnum")
  | .strEnum => (some "enum", "StrEnum")
  | .baseModel => (some "pydantic.main", "BaseModel")

/-- The order of a built-in class. -/
def order : Builtin → List Builtin
  | .object => [.object]
  | .bool => [.bool, .int, .object]
  | .datetime => [.datetime, .date, .object]
  | .jsonText => [.jsonText, .str, .object]
  | .fraction => [.fraction, .number, .object]
  | .userList => [.userList, .sequence, .object]
  | .intEnum => [.intEnum, .int, .enum, .object]
  | .strEnum => [.strEnum, .str, .enum, .object]
  | b => [b, .object]

/-- The built-in classes whose instances are sequences. -/
def isSequence : Builtin → Bool
  | .str | .bytes | .bytearray | .memoryview | .list | .tuple | .range | .deque
  | .userList => true
  | _ => false

end Builtin

namespace ClassName

/-- The name of a class alone. -/
def short : ClassName → String
  | .builtin b => b.nameParts.2
  | .declared name => name
  | .named _ name => name

/-- The name of a class with its module. -/
def qualified : ClassName → String
  | .builtin b =>
    match b.nameParts with
    | (some m, name) => m ++ "." ++ name
    | (none, name) => name
  | .declared name => "m." ++ name
  | .named (some home) name => home ++ "." ++ name
  | .named none name => name

end ClassName

namespace Classes

/-- Removes a class from the head of each list. -/
def dropHead (c : ClassName) (lists : List (List ClassName)) : List (List ClassName) :=
  lists.map fun l => if l.head? = some c then l.tail else l

/-- Merges orders, in at most `fuel` steps. -/
def merge : Nat → List (List ClassName) → List ClassName
  | 0, _ => []
  | fuel + 1, lists =>
    let heads := lists.filterMap List.head?
    match heads.find? fun c => !lists.any fun l => l.tail.contains c with
    | none => []
    | some c => c :: merge fuel (dropHead c lists)

/-- The class that a class of some kind has below it when it lists no base. -/
def baseOf : ClassKind → Builtin
  | .plain => .object
  | .record => .object
  | .model => .baseModel
  | .enumeration .plain => .enum
  | .enumeration .int => .intEnum
  | .enumeration .str => .strEnum

/-- The order of a class, given the orders of the classes declared before it. -/
def orderOfDecl (before : Entries String (List ClassName)) (d : ClassDecl) : List ClassName :=
  let orders :=
    if d.bases.isEmpty then [(baseOf d.kind).order.map ClassName.builtin]
    else d.bases.map fun b => (Entries.get? before b).getD []
  let heads := orders.filterMap List.head?
  let lists := orders ++ [heads]
  ClassName.declared d.name :: merge (lists.map List.length).sum lists

/-- The orders of the declared classes. -/
def orders (Γ : Classes) : Entries String (List ClassName) :=
  Γ.decls.foldl (fun acc d => acc ++ [(d.name, orderOfDecl acc d)]) []

/-- A class and its bases, each before its own bases. -/
def order (Γ : Classes) : ClassName → List ClassName
  | .builtin b => b.order.map ClassName.builtin
  | .declared name => (Entries.get? Γ.orders name).getD [.declared name, .builtin .object]
  | .named home name => [.named home name, .builtin .object]

/-- The declared classes in the order of a class. -/
def declsOf (Γ : Classes) (c : ClassName) : List ClassDecl :=
  (Γ.order c).filterMap fun
    | .declared name => Γ.find? name
    | _ => none

/-- Whether a class is another one or has it below it. -/
def isSubclass (Γ : Classes) (c d : ClassName) : Bool :=
  (Γ.order c).contains d

end Classes

/-- The class of the rows of a form. -/
def RowForm.builtin : RowForm → Builtin
  | .list => .list
  | .tuple => .tuple
  | .deque => .deque
  | .userList => .userList
  | .set => .set
  | .frozenset => .frozenset

/-- The class of the rows of bytes of a form. -/
def OctetForm.builtin : OctetForm → Builtin
  | .bytes => .bytes
  | .bytearray => .bytearray
  | .memoryview => .memoryview

/-- The class of a value. -/
def Value.classOf : Value → ClassName
  | .null => .builtin .noneType
  | .bool _ => .builtin .bool
  | .int _ => .builtin .int
  | .float _ => .builtin .float
  | .complex .. => .builtin .complex
  | .decimal _ => .builtin .decimal
  | .fraction _ => .builtin .fraction
  | .text _ => .builtin .str
  | .jsonText _ => .builtin .jsonText
  | .octets form _ => .builtin form.builtin
  | .row form _ => .builtin form.builtin
  | .dict _ => .builtin .dict
  | .range _ => .builtin .range
  | .date _ => .builtin .date
  | .datetime _ => .builtin .datetime
  | .time _ => .builtin .time
  | .duration _ => .builtin .timedelta
  | .uuid _ => .builtin .uuid
  | .member cls _ _ _ => .declared cls
  | .object cls _ => .declared cls
  | .number _ cls _ => .declared cls
  | .iterator kind _ _ => .named none kind

/-- Whether a value is an instance of a class. -/
def Classes.isInstance (Γ : Classes) (v : Value) (c : ClassName) : Bool :=
  Γ.isSubclass v.classOf c ||
    match c with
    | .builtin .number => v.isNumber
    | .builtin .sequence =>
      (Γ.order v.classOf).any fun
        | .builtin b => b.isSequence
        | _ => false
    | _ => false

end Carryover
