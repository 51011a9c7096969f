import Carryover.Directive
import Carryover.Fault
import Carryover.Value.Equality

/-!
# Types as they are written

A hint is the type of an attribute, of a parameter or of the value to be read. Besides the
classes there are composed forms, and forms that stand for no type at all, such as a text or
another object in the place of a type.

| hint | values |
| --- | --- |
| `cls c` | the instances of a class |
| `any` | all |
| `row form h` | lists or sets of `h` |
| `dict _ k v` | mappings from `k` to `v` |
| `tuple hs` | tuples with one item per hint |
| `union hs` | the values of each of two hints or more |
| `literal vs` | the values listed |
| `annotated h notes` | those of `h` |
| `written s h` | those of `h`, which the text `s` evaluates to |

Evaluating a text gives a hint or a fault, and has no other effect. Types with parameters other than
rows, mappings and tuples are left out, and so are the notes that constrain values.
-/

namespace Carryover

/-- The built-in classes. -/
inductive Builtin where
  | object
  | noneType
  | bool
  | int
  | float
  | complex
  | str
  | bytes
  | bytearray
  | memoryview
  | list
  | tuple
  | dict
  | set
  | frozenset
  | range
  | decimal
  | fraction
  | date
  | datetime
  | time
  | timedelta
  | uuid
  | number
  | sequence
  | jsonText
  | deque
  | userList
  | enum
  | intEnum
  | strEnum
  | baseModel
  deriving DecidableEq

/-- A class: a built-in one, a declared one, or one of which only the name is known. -/
inductive ClassName where
  | builtin (b : Builtin)
  | declared (name : String)
  | named (home : Option String) (name : String)
  deriving DecidableEq

/-- The spellings of a list, a set or a mapping type. -/
inductive Spelling where
  | capital
  | builtin
  deriving DecidableEq

/-- What may stand beside a type in an annotated one. -/
inductive Note where
  | directive (d : Directive)
  | doc (text : String)
  /-- The name of a field in JSON. -/
  | alias (name : String)
  /-- The name of a field in the JSON that it is read of. -/
  | readAlias (name : String)
  /-- The name of a field in the JSON that it is written as. -/
  | writeAlias (name : String)
  deriving DecidableEq

/-- A type as it is written. -/
inductive Hint where
  | cls (c : ClassName)
  | any
  | nothing
  | noReturn
  | never
  | row (form : RowForm) (spelling : Spelling) (item : Hint)
  | dict (spelling : Spelling) (key value : Hint)
  | tuple (items : List Hint)
  | union (members : List Hint)
  | literal (values : List Value)
  | annotated (base : Hint) (notes : List Note)
  | classVar (of : Option Hint)
  | initVar (of : Option Hint)
  | written (text : String) (meaning : Hint)
  | failing (text : String) (fault : Fault)
  | textObject (text : String)
  | forwardRef (name : String)
  | typeVar (name : String)
  | object (v : Value)
  deriving Inhabited

namespace Hint

/-- The built-in class as a hint. -/
abbrev builtin (b : Builtin) : Hint := .cls (.builtin b)

/-- The class of a value, but flags, numbers and texts apart from one another. -/
def literalTag : Value → Nat × String
  | .bool _ => (0, "")
  | .int _ => (1, "")
  | .text _ => (2, "")
  | .jsonText _ => (3, "")
  | .null => (4, "")
  | .member c _ _ _ => (5, c)
  | .octets .. => (6, "")
  | _ => (7, "")

/-- Whether two listed values are the same: equal and of one class. -/
def sameLiteral (v w : Value) : Bool :=
  literalTag v == literalTag w && v.equals w

mutual

/-- Whether two hints are the same type; the members of a union and the values of a literal
come in any order. -/
def same : Hint → Hint → Bool
  | .cls c, .cls d => c == d
  | .any, .any => true
  | .nothing, .nothing => true
  | .noReturn, .noReturn => true
  | .never, .never => true
  | .row f s h, .row f' s' h' => f == f' && s == s' && same h h'
  | .dict s k v, .dict s' k' v' => s == s' && same k k' && same v v'
  | .tuple hs, .tuple hs' => sameAll hs hs'
  | .union hs, .union hs' => hs.length == hs'.length && eachIn hs hs'
  | .literal vs, .literal ws =>
    vs.length == ws.length && vs.all fun v => ws.any fun w => sameLiteral v w
  | .annotated h ns, .annotated h' ns' => same h h' && ns == ns'
  | .classVar none, .classVar none => true
  | .classVar (some h), .classVar (some h') => same h h'
  | .initVar none, .initVar none => true
  | .initVar (some h), .initVar (some h') => same h h'
  | .written s _, .written s' _ => s == s'
  | .failing s _, .failing s' _ => s == s'
  | .textObject s, .textObject s' => s == s'
  | .forwardRef s, .forwardRef s' => s == s'
  | .typeVar s, .typeVar s' => s == s'
  | _, _ => false

/-- Whether the hints of two lists are the same one by one. -/
def sameAll : List Hint → List Hint → Bool
  | [], [] => true
  | h :: hs, h' :: hs' => same h h' && sameAll hs hs'
  | _, _ => false

/-- Whether each hint is the same as one of a list. -/
def eachIn : List Hint → List Hint → Bool
  | [], _ => true
  | h :: hs, hs' => hs'.any (fun h' => same h h') && eachIn hs hs'

end

/-- Whether the hint is the class of the absent value. -/
def isNoneType : Hint → Bool
  | .cls (.builtin .noneType) => true
  | _ => false

/-- The members of a union, a hint that is no union being its only member. -/
def members : Hint → List Hint
  | .union hs => hs
  | h => [h]

/-- The union of hints: unions among them are opened, of equal members the first is kept, and
a single member is the union itself. The object that stands for nothing is the class of it. -/
def unionOf (hs : List Hint) : Hint :=
  let opened := hs.flatMap fun h =>
    match h with
    | .nothing => [builtin .noneType]
    | h => h.members
  let kept := opened.foldl (fun acc h => if acc.any fun k => same k h then acc else acc ++ [h]) []
  match kept with
  | [h] => h
  | hs => .union hs

/-- The values of a hint and the absence of one. -/
def optional (h : Hint) : Hint :=
  unionOf [h, builtin .noneType]

/-- A hint with notes; notes on an annotated hint come after the ones it has. -/
def annotate (h : Hint) (notes : List Note) : Hint :=
  match h with
  | .annotated base inner => .annotated base (inner ++ notes)
  | h => .annotated h notes

/-- Listed values, of the same ones the first. -/
def literalOf (vs : List Value) : Hint :=
  .literal (vs.foldl (fun acc v => if acc.any fun w => sameLiteral w v then acc else acc ++ [v]) [])

/-- The notes of an annotated hint. -/
def notes : Hint → List Note
  | .annotated _ ns => ns
  | _ => []

/-- The first directive in the notes of an annotated hint. -/
def directive? (h : Hint) : Option Directive :=
  h.notes.findSome? fun
    | .directive d => some d
    | _ => none

/-- Whether the hint is a text in the place of a type. -/
def isWritten : Hint → Bool
  | .written .. | .failing .. => true
  | _ => false

/-- The type that a hint evaluates to. -/
def evaluate : Hint → Except Fault Hint
  | .written _ meaning => .ok meaning
  | .failing _ fault => .error fault
  | h => .ok h

end Hint
end Carryover
