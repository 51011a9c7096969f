import Carryover.Context.Merge
import Carryover.Field.Registry
import Carryover.Index

/-!
# Extracting a context

An object comes into a context by the directives of its fields, in order. The value of a field
is stored under the key that the directive resolves to, or its own fields are taken in its
place. What comes later under the same key takes the place of what came before.

| value of a field | taken |
| --- | --- |
| none, or the absent value | nothing |
| with an index | the element at the index |
| with `flatten` | the context extracted from it |
| otherwise | the value |

A failure names the class of the object whose fields could not be found or read. One that is
itself a failed extraction, or that asks the program to end, is passed on as it is.
-/

namespace Carryover

-- Sums start from the zero of the core library, whatever other zeros are in scope.
attribute [local instance (high)] Zero.ofOfNat0

/-- Puts the value of a field or a parameter into a context; `extract` extracts the context of
a value that is flattened. -/
def place (extract : Value → Run Context) (role name : String) (v : Value) (d : Directive)
    (context : Context) : Run Context := do
  match v with
  | .null => return context
  | v =>
    let taken ← if 0 ≤ d.index then takeElement role name v d.index else pure v
    match taken with
    | .null => return context
    | taken =>
      if d.flatten then
        let inner ← extract taken
        return Entries.putAll context inner
      else return Entries.put context (d.resolve name) taken

/-- The attribute of an object that a field names, if there is one. -/
def readField (target : Value) (f : Field) : Run (Option Value) := do
  let Γ ← Run.classes
  match Γ.attribute? target f.attr with
  | .ok v => return v
  | .error fault => throw (.raised fault)

/-- Puts the fields of an object into a context, one after the other. -/
def placeFields (extract : Value → Run Context) (target : Value) :
    List Field → Context → Run Context
  | [], context => return context
  | f :: fields, context => do
    match ← readField target f with
    | none =>
      Run.note (.noValue f.name target.classOf)
      placeFields extract target fields context
    | some v =>
      let context ← place extract "field" f.name v f.directive context
      placeFields extract target fields context

/-- Extracts the context of an object, given how the context of a flattened value is. -/
def extractStep (extract : Value → Run Context) (target : Value) : Run Context := do
  match target with
  | .null => throw .nothingToExtract
  | target =>
    let c := target.classOf
    tryCatch
      (do
        let fields ← contextFields c
        if fields.isEmpty then
          Run.note (.noFields c)
          return []
        else placeFields extract target fields [])
      fun e =>
        if e.isA .extraction || !e.isError then throw e
        else throw (.extraction c.qualified e)

/-- Extracts the context of an object that flattens at most `room` deep. -/
def extractWithin : Nat → Value → Run Context
  | 0, _ => throw .tooDeep
  | room + 1, target => extractStep (extractWithin room) target

namespace Value

mutual

/-- The number of values in a value: with those inside of it, the elements of ranges and bytes
and the names of members. -/
def weight : Value → Nat
  | .row _ items => weights items + 1
  | .dict entries => entryWeights entries + 1
  | .range r => r.size + 1
  | .octets _ bytes => bytes.length + 1
  | .member _ _ _ value => weight value + 2
  | .object _ attrs => attrWeights attrs + 1
  | .number _ _ attrs => attrWeights attrs + 1
  | .iterator _ _ items => weights items + 1
  | _ => 1

/-- The number of values in the items of a row. -/
def weights : List Value → Nat
  | [] => 0
  | v :: vs => weight v + weights vs

/-- The number of values in the entries of a mapping. -/
def entryWeights : List (Value × Value) → Nat
  | [] => 0
  | (k, v) :: es => weight k + weight v + entryWeights es

/-- The number of values in the attributes of an object. -/
def attrWeights : List (String × Value) → Nat
  | [] => 0
  | (_, v) :: attrs => weight v + attrWeights attrs

end

end Value

/-- The value that running declared code gives. -/
def Outcome.value? : Outcome → Option Value
  | .gives v => some v
  | .raises _ => none

/-- The number of values that a class holds. -/
def ClassDecl.weight (d : ClassDecl) : Nat :=
  let given := d.properties.filterMap fun (_, o) => o.value?
  ((given ++ d.classAttrs.map (·.2) ++ d.defaults.map (·.2)).map Value.weight).sum

/-- The number of values that the classes hold, and that other attributes give. -/
def Classes.weight (Γ : Classes) : Nat :=
  (Γ.decls.map ClassDecl.weight).sum +
    ((Γ.others.filterMap fun a => a.outcome.value?).map Value.weight).sum

/-- Extracts the context of an object. Each step down goes to a value inside of the object or of
a class, so a flattening that ends goes no deeper than there are values. -/
def extractContext (target : Value) : Run Context := do
  let Γ ← Run.classes
  extractWithin (target.weight + Γ.weight + 1) target

/-- Puts the value of a field or a parameter into a context. -/
def applyDirective (role name : String) (v : Value) (d : Directive) (context : Context) :
    Run Context :=
  place extractContext role name v d context

/-- An operation in a session on a context that its caller owns: what it writes stays written,
also if it fails afterwards. -/
abbrev Edit (α : Type) := ExceptT Failure (StateM (Session × Context)) α

namespace Edit

/-- Performs an operation that has nothing to do with the context. -/
def ofRun {α : Type} (x : Run α) : Edit α :=
  ExceptT.mk fun (s, context) =>
    let (result, t) := x.run s
    (result, (t, context))

/-- Writes one entry. -/
def write (key : String) (v : Value) : Edit Unit :=
  modify fun (s, context) => (s, Entries.put context key v)

end Edit

/-- Puts the value of a field or a parameter into a context that the caller owns. The entries of
a value that is flattened are written one after the other, once all of them are there. -/
def placeInto (role name : String) (v : Value) (d : Directive) : Edit Unit := do
  match v with
  | .null => return
  | v =>
    let taken ← Edit.ofRun (if 0 ≤ d.index then takeElement role name v d.index else pure v)
    match taken with
    | .null => return
    | taken =>
      if d.flatten then
        let inner ← Edit.ofRun (extractContext taken)
        inner.forM fun (key, w) => Edit.write key w
      else Edit.write (d.resolve name) taken

end Carryover
