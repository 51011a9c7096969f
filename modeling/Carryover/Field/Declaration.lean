import Carryover.Session

/-!
# Declarations of fields

The declarations of a class are, for each class in its order, bases first, the annotations that
are fields in order, then the registered names in order. The last declaration of an attribute
decides whether it is a field; the fields stand in the order in which they became fields.

| annotation | a field |
| --- | --- |
| of a name with two underscores at both ends | no |
| a text that begins with one of `classForms` | no |
| a class variable or a constructor argument | no |
| any other | yes, if it evaluates to a type with a directive |
-/

namespace Carryover

/-- One declaration of an attribute, with or without a directive. -/
structure Declaration where
  name : String
  attr : String
  owner : ClassName
  directive : Option Directive
  deriving DecidableEq

/-- Whether a list is at the end of another. -/
def endsWithChars (cs tail : List Char) : Bool :=
  tail.reverse.isPrefixOf cs.reverse

/-- Two underscores. -/
def twoUnderscores : List Char := ['_', '_']

/-- The marks in front of a private name of a class: an underscore, the name of the class
without its leading underscores, and two underscores. -/
def privateMark (cls : String) : List Char :=
  '_' :: (cls.toList.dropWhile (· == '_') ++ twoUnderscores)

/-- A private name begins with two underscores and does not end with two. -/
def isPrivate (name : List Char) : Bool :=
  twoUnderscores.isPrefixOf name && !endsWithChars name twoUnderscores

/-- The name of a declaration and the name of its attribute. A private name is marked with its
class, and a marked name is private without the mark. -/
def attributeNames (cls name : String) : String × String :=
  let mark := privateMark cls
  let cs := name.toList
  if mark.isPrefixOf cs then (String.ofList (cs.drop (mark.length - 2)), name)
  else if isPrivate cs then (name, String.ofList (mark ++ cs.drop 2))
  else (name, name)

/-- The written forms that are never fields. -/
def classForms : List String :=
  ["ClassVar", "typing.ClassVar", "t.ClassVar", "InitVar", "dataclasses.InitVar"]

/-- Whether a written type is one of the forms that are never fields: its text before the
first bracket, without blanks around it, says so. -/
def isClassForm (text : String) : Bool :=
  classForms.contains
    (String.ofList (Text.trimBy Text.isBlank (text.toList.takeWhile (· != '['))))

/-- Whether a name has two underscores at both ends. -/
def isDunder (name : String) : Bool :=
  twoUnderscores.isPrefixOf name.toList && endsWithChars name.toList twoUnderscores

namespace Hint

/-- Whether an annotation can be a field. -/
def isKept (name : String) (h : Hint) : Bool :=
  !isDunder name &&
    match h with
    | .written text _ | .failing text _ => !isClassForm text
    | .classVar _ | .initVar _ => false
    | _ => true

end Hint

namespace ClassDecl

/-- The annotations of a class that can be fields, evaluated. When one of them is a text, all
annotations of the class are evaluated, and the first that fails is what the class fails with. -/
def keptHints (d : ClassDecl) : Except Fault (List (String × Hint)) := do
  let kept := d.annotations.filter fun (name, h) => h.isKept name
  if kept.any fun (_, h) => h.isWritten then
    let evaluated ← d.annotations.mapM fun (name, h) => do
      let meaning ← h.evaluate
      return (name, h, meaning)
    return evaluated.filterMap fun (name, h, meaning) =>
      if h.isKept name then some (name, meaning) else none
  else return kept

/-- The declarations of a class by its annotations. -/
def annotated (d : ClassDecl) : Except Fault (List Declaration) := do
  let kept ← d.keptHints
  return kept.map fun (name, h) =>
    let (natural, attr) := attributeNames d.name name
    ⟨natural, attr, .declared d.name, h.directive?⟩

end ClassDecl

/-- The declarations of a class by registered directives. -/
def registeredDeclarations (c : ClassName) (ds : Entries String Directive) :
    List Declaration :=
  ds.map fun (name, directive) =>
    let (natural, attr) := attributeNames c.short name
    ⟨natural, attr, c, some directive⟩

namespace Session

/-- The declarations that one class makes. -/
def ownDeclarations (s : Session) (c : ClassName) : Except Fault (List Declaration) := do
  let annotated ←
    match c with
    | .declared name =>
      match s.classes.find? name with
      | some d => d.annotated
      | none => pure []
    | _ => pure []
  return annotated ++ registeredDeclarations c ((Entries.get? s.registered c).getD [])

/-- The declarations of a class, those of its bases first. -/
def declarations (s : Session) (c : ClassName) : Except Fault (List Declaration) := do
  let order := (s.classes.order c).reverse.filter (· != .builtin .object)
  let parts ← order.mapM s.ownDeclarations
  return parts.flatten

end Session

/-- The fields after one more declaration: with a directive it takes the place of the field of
that attribute or comes last, without one there is no such field any more. -/
def declare (fields : Entries String Field) (d : Declaration) : Entries String Field :=
  match d.directive with
  | some directive => Entries.put fields d.attr ⟨d.name, d.attr, d.owner, directive⟩
  | none => Entries.erase fields d.attr

/-- The fields that declarations come to. -/
def fieldsOf (ds : List Declaration) : List Field :=
  (ds.foldl declare []).map (·.2)

end Carryover
