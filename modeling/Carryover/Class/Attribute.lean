import Carryover.Class.Order

/-!
# Attributes and fields

An attribute is looked up in the classes of an object in order, then in the object: a property
and a slot of a class come before the attributes of the object, all else of a class after them.
Attributes that the declarations do not tell of come last.

The fields of a record are those of its bases, base first, then the ones it annotates; a field
that is declared again keeps its place. A model leaves out the names with a leading underscore.
-/

namespace Carryover

/-- What a class holds under a name. -/
inductive ClassEntry where
  | property (o : Outcome)
  | slot
  | attribute (v : Value)

/-- The attribute that running declared code comes to; one that is said to be missing is absent. -/
def Outcome.attribute? : Outcome → Except Fault (Option Value)
  | .gives v => .ok (some v)
  | .raises f => if f.kind.isA .missingAttribute then .ok none else .error f

/-- A field of a record or a model. -/
structure FieldDecl where
  name : String
  hint : Hint
  default : Option Value
  /-- The field is an argument of the constructor alone. -/
  initOnly : Bool

/-- The alias that a note gives for reading and for writing. -/
def Note.alias? : Note → Option String
  | .alias name => some name
  | _ => none

/-- The alias that a note gives for reading. -/
def Note.readAlias? : Note → Option String
  | .alias name | .readAlias name => some name
  | _ => none

/-- The alias that a note gives for writing. -/
def Note.writeAlias? : Note → Option String
  | .alias name | .writeAlias name => some name
  | _ => none

namespace FieldDecl

/-- The notes of a field; the last one of a kind counts. -/
def notes (f : FieldDecl) : List Note :=
  let meaning := match f.hint with
    | .written _ m => m
    | h => h
  meaning.notes.reverse

/-- The name of a field in the JSON that it is read of. -/
def jsonName (f : FieldDecl) : String :=
  (f.notes.findSome? Note.readAlias?).getD f.name

/-- The name of a field in the JSON of a model. -/
def shownName (f : FieldDecl) : String :=
  (f.notes.findSome? Note.writeAlias?).getD f.name

/-- The name of a field among the arguments of a model. -/
def argumentName (f : FieldDecl) : String :=
  (f.notes.findSome? Note.alias?).getD f.jsonName

end FieldDecl

namespace Value

/-- Lists and mappings, which are made anew for each object that has them as a default. -/
def isFresh : Value → Bool
  | .row .list _ | .dict _ => true
  | _ => false

end Value

namespace ClassDecl

/-- What a class itself holds under a name. -/
def holding? (d : ClassDecl) (name : String) : Option ClassEntry :=
  match Entries.get? d.properties name with
  | some o => some (.property o)
  | none =>
    match Entries.get? d.classAttrs name with
    | some v => some (.attribute v)
    | none =>
      if (d.slots.getD []).contains name then some .slot
      else if d.kind == .record then
        match Entries.get? d.defaults name with
        | some v => if v.isFresh then none else some (.attribute v)
        | none => none
      else none

/-- The annotations of a class that are fields. -/
def fieldHints (d : ClassDecl) : List (String × Hint) :=
  d.annotations.filter fun (name, hint) =>
    let meaning := match hint with
      | .written _ m => m
      | h => h
    match meaning with
    | .classVar _ => false
    | _ => !(d.kind == .model && name.startsWith "_")

end ClassDecl

namespace Classes

/-- What the classes of an object hold under a name. -/
def holding? (Γ : Classes) (c : ClassName) (name : String) : Option ClassEntry :=
  (Γ.declsOf c).findSome? fun d => d.holding? name

/-- Whether instances have the fields of a record. -/
def isRecord (Γ : Classes) (c : ClassName) : Bool :=
  (Γ.declsOf c).any fun d => d.kind == .record

/-- Whether instances are checked models. -/
def isModel (Γ : Classes) (c : ClassName) : Bool :=
  (Γ.declsOf c).any fun d => d.kind == .model

/-- The attribute of an object that the declarations tell of. -/
def declaredAttribute? (Γ : Classes) (v : Value) (name : String) : Except Fault (Option Value) :=
  match v with
  | .object cls attrs | .number _ cls attrs =>
    match Γ.holding? (.declared cls) name with
    | some (.property o) => o.attribute?
    | some .slot => .ok (Entries.get? attrs name)
    | some (.attribute w) => .ok (some ((Entries.get? attrs name).getD w))
    | none => .ok (Entries.get? attrs name)
  | .member _ _ member value =>
    if name == "name" || name == "_name_" then .ok (some (.text member))
    else if name == "value" || name == "_value_" then .ok (some value)
    else .ok none
  | _ => .ok none

/-- What an attribute of a value comes to that no declaration tells of, if it has that. -/
def other? (Γ : Classes) (v : Value) (name : String) : Option Outcome :=
  (Γ.others.find? fun a => a.name == name && a.applies v).map (·.outcome)

/-- The attribute of an object, absent if there is none or what computes it says so. -/
def attribute? (Γ : Classes) (v : Value) (name : String) : Except Fault (Option Value) :=
  match Γ.declaredAttribute? v name with
  | .ok none =>
    match Γ.other? v name with
    | some o => o.attribute?
    | none => .ok none
  | r => r

/-- The fields of a record or a model. -/
def fields (Γ : Classes) (c : ClassName) : List FieldDecl :=
  let decls := (Γ.declsOf c).reverse.filter fun d => d.kind == .record || d.kind == .model
  let table : Entries String FieldDecl := decls.foldl (fun table d =>
    d.fieldHints.foldl (fun table (name, hint) =>
      let inherited := match Γ.holding? (.declared d.name) name with
        | some (.attribute v) => some v
        | _ => none
      let default := (Entries.get? d.defaults name).orElse fun _ => inherited
      let meaning := match hint with
        | .written _ m => m
        | h => h
      let initOnly := match meaning with
        | .initVar _ => true
        | _ => false
      Entries.put table name ⟨name, hint, default, initOnly⟩) table) []
  table.map (·.2)

/-- The fields that objects hold. -/
def storedFields (Γ : Classes) (c : ClassName) : List FieldDecl :=
  (Γ.fields c).filter fun f => !f.initOnly

/-- Whether objects can hold attributes that are no slots. -/
def hasOpenAttrs (Γ : Classes) (c : ClassName) : Bool :=
  (Γ.declsOf c).any fun d => d.slots.isNone

/-- Whether a class or one above it has a slot of a name. -/
def hasSlot (Γ : Classes) (cls name : String) : Bool :=
  (Γ.declsOf (.declared cls)).any fun d => (d.slots.getD []).contains name

/-- The attributes of an object that are no slots. -/
def openAttrs (Γ : Classes) (cls : String) (attrs : Entries String Value) :
    Entries String Value :=
  attrs.filter fun (name, _) => !Γ.hasSlot cls name

end Classes
end Carryover
