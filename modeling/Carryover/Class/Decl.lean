import Carryover.Call.Signature

/-!
# Declared classes

| kind | instances |
| --- | --- |
| `plain` | hold the attributes that their constructor sets |
| `record` | hold the annotated fields, as arguments of the constructor |
| `model` | the same, checked and written under aliases |
| `enumeration` | the members listed |

What a class can declare beyond this is left out: fields that the constructor of a record does not
take, what a record does once it has been made, validators, serializers and the configuration of
models, and methods that compare objects. A class derives from declared classes alone; of those that
derive from built-in ones there are the enumerations, the models and the classes of numbers.
Attributes of built-in classes, methods, and attributes that a class computes by name are told of by
what they come to (`OtherAttribute`).
-/

namespace Carryover

/-- The kinds of declared classes. -/
inductive ClassKind where
  | plain
  | record
  | model
  | enumeration (mixin : Mixin)
  deriving DecidableEq

/-- What running declared code comes to. -/
inductive Outcome where
  | gives (v : Value)
  | raises (f : Fault)

/-- A declared class. -/
structure ClassDecl where
  name : String
  kind : ClassKind
  bases : List String := []
  annotations : Entries String Hint := []
  /-- The parameters of the constructor; it sets one attribute for each. -/
  init : Option (List Parameter) := none
  /-- What the constructor raises after its arguments are bound. -/
  initFault : Option Fault := none
  /-- The attributes of the instances, if these have no other ones. -/
  slots : Option (List String) := none
  /-- The text of the instances. -/
  shown : Option String := none
  properties : Entries String Outcome := []
  classAttrs : Entries String Value := []
  methods : List Signature := []
  /-- The defaults of fields. -/
  defaults : Entries String Value := []
  /-- The members of an enumeration and their values. -/
  members : Entries String Value := []

/-- An attribute that some values have without a declaration: one of a built-in class, a method,
or a name that a class computes attributes for. -/
structure OtherAttribute where
  /-- The values that have it. -/
  applies : Value → Bool
  name : String
  outcome : Outcome

/-- The declared classes, each after its bases. -/
structure Classes where
  decls : List ClassDecl := []
  /-- The attributes that the declarations do not tell of. -/
  others : List OtherAttribute := []

namespace Classes

/-- The declared class of a name. -/
def find? (Γ : Classes) (name : String) : Option ClassDecl :=
  Γ.decls.find? fun d => d.name == name

/-- A declaration is found under its own name. -/
theorem name_of_find? {Γ : Classes} {name : String} {d : ClassDecl} (h : Γ.find? name = some d) :
    d.name = name :=
  eq_of_beq (List.find?_some (p := fun d : ClassDecl => d.name == name) h)

/-- Sets one annotation of a declared class. -/
def annotate (Γ : Classes) (cls name : String) (hint : Hint) : Classes :=
  { Γ with decls := Γ.decls.map fun d =>
      if d.name == cls then { d with annotations := Entries.put d.annotations name hint }
      else d }

end Classes
end Carryover
