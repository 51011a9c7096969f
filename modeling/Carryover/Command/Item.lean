import Carryover.Class.Construct
import Carryover.Hint.Text
import Carryover.Json.Fit

/-!
# Named items

What a path can name: a class, a special form of types, a value, a factory of values, or
something of which no more is known than what kind of thing it is.

| item | attributes | called |
| --- | --- | --- |
| class | members, values held by the class, methods | makes an object |
| special form | none | refused |
| value | its own, then those of its class | refused, unless its class says otherwise |
| factory | none | gives its value |
| routine | none | refused, because it takes arguments |
| module | what it holds | refused |
-/

namespace Carryover
namespace Command

/-- What a path can name. -/
inductive Item where
  | cls (c : ClassName)
  | form (h : Hint)
  | value (v : Value)
  | factory (name : String) (outcome : Outcome)
  | routine (name : String)
  /-- An object of which only the class is known. -/
  | thing (c : ClassName)
  /-- A module, by its path. -/
  | home (path : String)

/-- What is declared to be named: classes, values and factories, and what the routines that are
written in the language itself come to when they are called with the entries of a JSON list or
object, unless these do not fit their parameters. -/
structure Scope where
  classes : Classes
  objects : Entries String Value := []
  factories : Entries String Outcome := []
  functions : Entries String (Json → Option Outcome) := []

/-- The text of an attribute that the instances of a class do not have. -/
def noInstanceAttribute (c : ClassName) (name : String) : Failure :=
  .missingAttribute
    ("'" ++ c.short ++ "' object has no attribute '" ++ name ++ "'")

/-- The text of an attribute that a class does not have. -/
def noClassAttribute (c : ClassName) (name : String) : Failure :=
  .missingAttribute ("type object '" ++ c.short ++ "' has no attribute '" ++ name ++ "'")

/-- A thing of a built-in kind that no value stands for. -/
def Item.opaqueThing (kind : String) : Item :=
  .thing (.named none kind)

/-- What a class holds under a name, as an item. -/
def itemOfHolding : ClassEntry → Item
  | .property _ => .opaqueThing "property"
  | .slot => .opaqueThing "member_descriptor"
  | .attribute v => .value v

/-- The member of an enumeration with a name; of members with one value the first is meant. -/
def memberOf? (d : ClassDecl) (name : String) : Option Value :=
  match d.kind with
  | .enumeration mixin => do
    let v ← Entries.get? d.members name
    let (first, w) ← d.members.find? fun m => m.2.equals v
    some (.member d.name mixin first w)
  | _ => none

namespace Scope

variable (s : Scope)

/-- The method of a class with a name. -/
def method? (c : ClassName) (name : String) : Option Signature :=
  (s.classes.declsOf c).findSome? fun d => d.methods.find? fun f => f.name == name

/-- The member of a declared class with a name. -/
def member? (cls name : String) : Option Value :=
  (s.classes.find? cls).bind fun d => memberOf? d name

/-- What a function comes to when it is called with the entries of a JSON list or object; a factory
takes none. Other items, routines of another language among them, are called with none. -/
def calledWith? (item : Item) : Option (Json → Option Outcome) :=
  match item with
  | .factory _ outcome => some fun
    | .list [] | .object [] => some outcome
    | _ => none
  | .routine name => Entries.get? s.functions name
  | _ => none

/-- Whether a declared class is an enumeration. -/
def isEnumeration (cls : String) : Bool :=
  (s.classes.find? cls).any fun d =>
    match d.kind with
    | .enumeration _ => true
    | _ => false

/-- An attribute that a declared class does not have. Enumerations and models tell no more than
the name. -/
def noDeclaredAttribute (cls name : String) : Failure :=
  if s.isEnumeration cls || s.classes.isModel (.declared cls) then .missingAttribute name
  else noClassAttribute (.declared cls) name

/-- An attribute of a declared class. -/
def classAttribute (cls name : String) : Except Failure Item :=
  match s.member? cls name with
  | some v => .ok (.value v)
  | none =>
    match s.classes.holding? (.declared cls) name with
    | some entry => .ok (itemOfHolding entry)
    | none =>
      match s.method? (.declared cls) name with
      | some f => .ok (.routine f.name)
      | none => .error (s.noDeclaredAttribute cls name)

/-- An attribute of an object of a declared class. -/
def objectAttribute (cls : String) (attrs : Entries String Value) (name : String) :
    Except Failure Item :=
  let own : Except Failure Item :=
    match Entries.get? attrs name with
    | some w => .ok (.value w)
    | none =>
      match s.method? (.declared cls) name with
      | some f => .ok (.routine f.name)
      | none => .error (noInstanceAttribute (.declared cls) name)
  match s.classes.holding? (.declared cls) name with
  | some (.property (.gives w)) => .ok (.value w)
  | some (.property (.raises f)) => .error (.raised f)
  | some (.attribute w) => .ok (.value ((Entries.get? attrs name).getD w))
  | _ => own

/-- An attribute of a value. -/
def valueAttribute (v : Value) (name : String) : Except Failure Item :=
  match v with
  | .object cls attrs | .number _ cls attrs => s.objectAttribute cls attrs name
  | .member cls _ member value =>
    if name == "name" then .ok (.value (.text member))
    else if name == "value" then .ok (.value value)
    else
      match s.member? cls name with
      | some w => .ok (.value w)
      | none => .error (noInstanceAttribute v.classOf name)
  | v => .error (noInstanceAttribute v.classOf name)

/-- Why calling a built-in class without arguments is refused, if it is. -/
def emptyCallRefusal? : Builtin → Option String
  | .memoryview => some "memoryview() missing required argument 'object' (pos 1)"
  | .range => some "range expected at least 1 argument, got 0"
  | .date | .datetime => some "function missing required argument 'year' (pos 1)"
  | .uuid => some "one of the hex, bytes, bytes_le, fields, or int arguments must be given"
  | .sequence =>
    some "Can't instantiate abstract class Sequence with abstract methods __getitem__, __len__"
  | .enum | .intEnum | .strEnum =>
    some "EnumType.__call__() missing 1 required positional argument: 'value'"
  | _ => none

/-- What calling a special form comes to. -/
def formCallRefusal (h : Hint) : String :=
  match h with
  | .any => "Any cannot be instantiated"
  | .row form _ _ =>
    let name := form.builtin.nameParts.2
    "Type " ++ name.capitalize ++ " cannot be instantiated; use " ++ name ++ "() instead"
  | .dict .. => "Type Dict cannot be instantiated; use dict() instead"
  | h => "Cannot instantiate " ++ h.render s.classes

/-- The object that a declared class makes without arguments. -/
def emptyObject (cls : String) : Except Failure Value :=
  if s.isEnumeration cls then
    .error (.refused "EnumType.__call__() missing 1 required positional argument: 'value'")
  else if s.classes.isModel (.declared cls) then
    (Json.fit s.classes (.cls (.declared cls)) (.object [])).map (·.value)
  else s.classes.construct (.declared cls) []

/-- What calling an object with a method for it comes to: nothing, unless the method has
parameters without a default. -/
def callMethod (owner : String) (f : Signature) : Except Failure Item :=
  let missing := f.parameters.filter fun p =>
    p.default.isNone && (p.kind = .positionOnly || p.kind = .either)
  if missing.isEmpty then .ok (.value .null)
  else
    .error (.refused (owner ++ "." ++ f.name ++ "() missing " ++ toString missing.length ++
      " required positional argument" ++ (if missing.length = 1 then "" else "s") ++ ": " ++
      Classes.nameList (missing.map (·.name))))

/-- What an item comes to when it is called if it can be. -/
def call (item : Item) : Except Failure Item :=
  match item with
  | .cls (.declared cls) => (s.emptyObject cls).map .value
  | .cls (.builtin b) =>
    match emptyCallRefusal? b with
    | some text => .error (.refused text)
    | none => .ok (.thing (.builtin b))
  | .cls c => .ok (.thing c)
  | .form h => .error (.refused (s.formCallRefusal h))
  | .factory _ (.gives v) => .ok (.value v)
  | .factory _ (.raises f) => .error (.raised f)
  | .routine name => .error (.refused (name ++ "() takes exactly one argument (0 given)"))
  | .value (.object cls _) | .value (.number _ cls _) =>
    match s.method? (.declared cls) "__call__" with
    | some f => callMethod cls f
    | none => .ok item
  | item => .ok item

end Scope
end Command
end Carryover
