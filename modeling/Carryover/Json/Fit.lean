import Carryover.Calendar.Reading
import Carryover.Hint.Basic
import Carryover.Json.OfValue
import Carryover.Json.Scalar

/-!
# Fitting JSON to a type

A tree fits a hint as the value that it stands for, more or less closely. Of the members of a
union the closest fit is taken, the first of equal ones; between records that have different
numbers of fields in the tree, the one with more of them.

| hint | trees |
| --- | --- |
| class of scalars | the scalars that stand for its values |
| list, set, tuple | lists |
| mapping | objects, the keys fitted as texts |
| record, model | objects with its fields; other entries are ignored |
| enumeration | the values of its members |
| literal | the values listed |

A tree that does not fit is `unfit`. Any other failure ends the fitting at once.
-/

namespace Carryover

open Number Calendar

/-- How closely a value fits. -/
inductive Closeness where
  | lax
  | strict
  | exact
  deriving DecidableEq

namespace Closeness

/-- A number for each closeness, higher for closer. -/
def rank : Closeness → Nat
  | .lax => 0
  | .strict => 1
  | .exact => 2

/-- The less close of two. -/
def meet (a b : Closeness) : Closeness :=
  if a.rank ≤ b.rank then a else b

end Closeness

/-- A value that a tree fits as. -/
structure Fit where
  value : Value
  closeness : Closeness
  /-- The number of fields of records that the tree gives, if there are records. -/
  fieldsGiven : Option Nat

namespace Fit

/-- A value without records. -/
def of (v : Value) (c : Closeness) : Fit := ⟨v, c, none⟩

/-- Adds up the numbers of fields given. -/
def addFields : Option Nat → Option Nat → Option Nat
  | none, n => n
  | n, none => n
  | some a, some b => some (a + b)

/-- A value made of fitted ones, at most as close as `c`. -/
def gather (c : Closeness) (parts : List Fit) (v : Value) : Fit :=
  ⟨v, parts.foldl (fun acc f => acc.meet f.closeness) c,
    parts.foldl (fun acc f => addFields acc f.fieldsGiven) none⟩

/-- Whether a fit is better than the best one so far. -/
def isBetter (best new : Fit) : Bool :=
  match best.fieldsGiven, new.fieldsGiven with
  | some a, some b => if a = b then best.closeness.rank < new.closeness.rank else a < b
  | _, _ => best.closeness.rank < new.closeness.rank

/-- Adds a result to those before it. What is unfit gives way to any other failure. -/
def both {α β γ : Type} (combine : α → β → γ) :
    Except Failure α → Except Failure β → Except Failure γ
  | .ok a, .ok b => .ok (combine a b)
  | .ok _, .error e => .error e
  | .error .unfit, .ok _ => .error .unfit
  | .error .unfit, .error e => .error e
  | .error e, _ => .error e

end Fit

namespace Value

mutual

/-- Whether a value can be in a set. -/
def isHashable (Γ : Classes) : Value → Bool
  | .row .tuple items => allHashable Γ items
  | .row .frozenset _ => true
  | .row .. => false
  | .dict _ => false
  | .octets .bytearray _ => false
  | .object cls _ | .number _ cls _ => !(Γ.isRecord (.declared cls) || Γ.isModel (.declared cls))
  | _ => true

/-- Whether all values can be in a set. -/
def allHashable (Γ : Classes) : List Value → Bool
  | [] => true
  | v :: vs => isHashable Γ v && allHashable Γ vs

end

/-- A set of values, if all of them can be in one. -/
def setOf? (Γ : Classes) (form : RowForm) (items : List Value) : Except Failure Value :=
  if allHashable Γ items then .ok (.row form (distinct items)) else .error .unfit

end Value

namespace Json

mutual

/-- A tree as a value. -/
def toValue : Json → Value
  | .null => .null
  | .bool b => .bool b
  | .int i => .int i
  | .float x => .float x
  | .text s => .text s
  | .list items => .row .list (toValues items)
  | .object entries => .dict (toEntries entries)

/-- Trees as values. -/
def toValues : List Json → List Value
  | [] => []
  | j :: js => toValue j :: toValues js

/-- The entries of an object as those of a mapping. -/
def toEntries : List (String × Json) → List (Value × Value)
  | [] => []
  | (k, j) :: es => (.text k, toValue j) :: toEntries es

end

/-- A scalar as a value of a built-in class, if its kind says so. -/
def unfitOr {α : Type} (o : Option α) (f : α → Fit) : Except Failure Fit :=
  match o with
  | some a => .ok (f a)
  | none => .error .unfit

/-- Numbers as moments in time. -/
def timestamp? : Json → Option DateTime
  | .int i => ofTimestamp? i
  | .float (.finite x) => ofTimestamp? x.toRat
  | .text s => (plainNumber? s.toList).bind ofTimestamp?
  | _ => none

/-- A scalar as a date and a time. -/
def toDateTime? (j : Json) : Option (DateTime × Closeness) :=
  match j with
  | .text s =>
    match readDateTime? s.toList with
    | some t => some (t, .strict)
    | none => (timestamp? j).map (·, .strict)
  | j => (timestamp? j).map (·, .lax)

/-- A scalar as a date; a date and a time only at midnight. -/
def toDate? (j : Json) : Option (Date × Closeness) :=
  let direct := match j with
    | .text s => readDate? s.toList
    | _ => none
  match direct with
  | some d => some (d, .strict)
  | none =>
    match toDateTime? j with
    | some (t, _) =>
      if t.time.hour = 0 && t.time.minute = 0 && t.time.second = 0 && t.time.micro = 0 then
        some (t.date, .lax)
      else none
    | none => none

/-- A scalar as a time of day; a number counts the seconds from midnight. -/
def toTime? : Json → Option (Time × Closeness)
  | .text s => (readTime? s.toList).map (·, .strict)
  | .int i => if 0 ≤ i then (Time.ofMicros? (i.toNat * 1000000) (some 0)).map (·, .lax) else none
  | _ => none

/-- A scalar as a duration; a number counts seconds. -/
def toDuration? : Json → Option (Duration × Closeness)
  | .text s => (readDuration? s.toList).map (·, .strict)
  | .int i => some (⟨i * 1000000⟩, .lax)
  | .float (.finite x) => some (⟨(x.toRat * 1000000 + 1 / 2).floor⟩, .lax)
  | _ => none

/-- A tree as a value of a built-in class. -/
def fitBuiltin (Γ : Classes) (b : Builtin) (j : Json) : Except Failure Fit :=
  match b, j with
  | .object, j => .ok (.of j.toValue .strict)
  | .noneType, .null => .ok (.of .null .exact)
  | .bool, .bool v => .ok (.of (.bool v) .exact)
  | .bool, j => unfitOr j.toBool? fun v => .of (.bool v) .lax
  | .int, .int i => .ok (.of (.int i) .exact)
  | .int, j => unfitOr j.toInt? fun i => .of (.int i) .lax
  | .float, .float x => .ok (.of (.float x) .exact)
  | .float, .int i => .ok (.of (.float (.ofInt i)) .strict)
  | .float, j => unfitOr j.toDouble? fun x => .of (.float x) .lax
  | .complex, j => unfitOr j.toComplex? fun (a, b) => .of (.complex a b) .lax
  | .str, .text s => .ok (.of (.text s) .exact)
  | .bytes, .text s => .ok (.of (.octets .bytes s.toUTF8.data.toList) .strict)
  | .bytearray, .text s => .ok (.of (.octets .bytearray s.toUTF8.data.toList) .strict)
  | .list, .list items => .ok (.of (.row .list (toValues items)) .exact)
  | .tuple, .list items => .ok (.of (.row .tuple (toValues items)) .strict)
  | .deque, .list items => .ok (.of (.row .deque (toValues items)) .lax)
  | .set, .list items =>
    match Value.setOf? Γ .set (toValues items) with
    | .ok v => .ok (.of v .strict)
    | .error e => .error e
  | .frozenset, .list items =>
    match Value.setOf? Γ .frozenset (toValues items) with
    | .ok v => .ok (.of v .strict)
    | .error e => .error e
  | .sequence, .list items => .ok (.of (.row .list (toValues items)) .lax)
  | .dict, .object entries => .ok (.of (.dict (toEntries entries)) .exact)
  | .decimal, j => unfitOr j.toDecimal? fun d => .of (.decimal d) .strict
  | .fraction, j => unfitOr j.toFraction? fun q => .of (.fraction q) .exact
  | .date, j => unfitOr j.toDate? fun (d, c) => .of (.date d) c
  | .datetime, j => unfitOr j.toDateTime? fun (t, c) => .of (.datetime t) c
  | .time, j => unfitOr j.toTime? fun (t, c) => .of (.time t) c
  | .timedelta, j => unfitOr j.toDuration? fun (d, c) => .of (.duration d) c
  | .uuid, .text s => unfitOr (Uuid.ofText? s) fun u => .of (.uuid u) .strict
  | _, _ => .error .unfit

/-- Whether a listed value and a scalar are of one kind and the same. -/
def isSameScalar : Value → Json → Bool
  | .bool a, .bool b => a == b
  | .int a, .int b => a == b
  | .text a, .text b => a == b
  | _, _ => false

/-- The last of the listed values that a tree stands for: one of the same kind before one that
is equal to it. -/
def listed? {α : Type} (values : List (Value × α)) (j : Json) : Option (Value × α) :=
  match values.reverse.find? fun e => isSameScalar e.1 j with
  | some e => some e
  | none => values.reverse.find? fun e => e.1.equals j.toValue

/-- A tree as a member of an enumeration. Members that are whole numbers are found by the
numbers that a tree stands for. -/
def fitMember (d : ClassDecl) (mixin : Mixin) (j : Json) : Except Failure Fit :=
  let values := d.members.map fun (name, v) => (v, name)
  let found := match mixin with
    | .plain => listed? values j
    | .int => j.toInt?.bind fun i => values.find? fun e => isSameScalar e.1 (.int i)
    | .str => values.find? fun e => isSameScalar e.1 j
  match found with
  | some (v, _) =>
    match d.members.find? fun m => m.2.equals v with
    | some (name, w) => .ok (.of (.member d.name mixin name w) .lax)
    | none => .error .unfit
  | none => .error .unfit

/-- The entry of an object under a key, with its size. -/
def atKey? (es : List (String × Json)) (k : String) : Option { j : Json // sizeOf j < sizeOf es } :=
  match es with
  | [] => none
  | (k', j) :: rest =>
    if k' = k then some ⟨j, by simp; omega⟩
    else (atKey? rest k).map fun j => ⟨j.1, by have := j.2; simp; omega⟩

/-- Whether a fit ends the search in a union. -/
def isFinal (f : Fit) : Bool :=
  f.closeness == .exact && f.fieldsGiven.isNone

/-- The better of two fits, the first if none is better. -/
def better : Option Fit → Fit → Fit
  | none, f => f
  | some best, f => if best.isBetter f then f else best

mutual

/-- A tree as a value of a hint. -/
def fit (Γ : Classes) (h : Hint) (j : Json) : Except Failure Fit :=
  match h with
  | .cls (.builtin b) => fitBuiltin Γ b j
  | .cls (.declared name) =>
    match Γ.find? name with
    | none => .error .noSchema
    | some d =>
      match d.kind with
      | .enumeration mixin => fitMember d mixin j
      | _ =>
        match j with
        | .object entries =>
          match fitFields Γ (Γ.fields (.declared name)) entries with
          | .ok parts =>
            let stored := parts.filter fun p => !p.1.initOnly
            let attrs := stored.map fun p => (p.1.name, p.2.value)
            let given := (parts.filter fun p => (atKey? entries p.1.jsonName).isSome).length
            let f := Fit.gather (if d.kind == .model then .lax else .strict)
              (parts.map (·.2)) (.object name attrs)
            .ok { f with fieldsGiven := Fit.addFields (some given) f.fieldsGiven }
          | .error e => .error e
        | _ => .error .unfit
  | .any => .ok (.of j.toValue .strict)
  | .nothing => fitBuiltin Γ .noneType j
  | .row form _ item =>
    match j with
    | .list items =>
      match fitItems Γ item items with
      | .ok fits =>
        let values := fits.map Fit.value
        match form with
        | .list => .ok (Fit.gather .exact fits (.row .list values))
        | .set | .frozenset =>
          match Value.setOf? Γ form values with
          | .ok v => .ok (Fit.gather .strict fits v)
          | .error e => .error e
        | form => .ok (Fit.gather .strict fits (.row form values))
      | .error e => .error e
    | _ => .error .unfit
  | .dict _ key value =>
    match j with
    | .object entries =>
      match fitEntries Γ key value entries with
      | .ok pairs =>
        .ok (Fit.gather .exact (pairs.map (·.1) ++ pairs.map (·.2))
          (Value.dictOf (pairs.map fun p => (p.1.value, p.2.value))))
      | .error e => .error e
    | _ => .error .unfit
  | .tuple hs =>
    match j with
    | .list items =>
      match fitEach Γ hs items with
      | .ok fits => .ok (Fit.gather .strict fits (.row .tuple (fits.map Fit.value)))
      | .error e => .error e
    | _ => .error .unfit
  | .union hs =>
    match j with
    | .null => if hs.any Hint.isNoneType then .ok (.of .null .exact) else fitUnion Γ hs .null none
    | j => fitUnion Γ hs j none
  | .literal values =>
    match listed? (values.map fun v => (v, ())) j with
    | some (v, _) => .ok (.of v .exact)
    | none => .error .unfit
  | .annotated base _ => fit Γ base j
  | .written _ meaning => fit Γ meaning j
  | .typeVar _ => .ok (.of j.toValue .strict)
  | _ => .error .noSchema
termination_by (sizeOf j, sizeOf h)

/-- Trees as values of one hint. -/
def fitItems (Γ : Classes) (h : Hint) (js : List Json) : Except Failure (List Fit) :=
  match js with
  | [] => .ok []
  | j :: js => Fit.both List.cons (fit Γ h j) (fitItems Γ h js)
termination_by (sizeOf js, sizeOf h)

/-- The entries of an object as those of a mapping. -/
def fitEntries (Γ : Classes) (key value : Hint) (es : List (String × Json)) :
    Except Failure (List (Fit × Fit)) :=
  match es with
  | [] => .ok []
  | (k, j) :: es =>
    Fit.both List.cons (Fit.both Prod.mk (fit Γ key (.text k)) (fit Γ value j))
      (fitEntries Γ key value es)
termination_by (sizeOf es, 0)

/-- Trees as values of as many hints. -/
def fitEach (Γ : Classes) (hs : List Hint) (js : List Json) : Except Failure (List Fit) :=
  match hs, js with
  | [], [] => .ok []
  | h :: hs, j :: js => Fit.both List.cons (fit Γ h j) (fitEach Γ hs js)
  | _, _ => .error .unfit
termination_by (sizeOf js, sizeOf hs)

/-- The fields of a record with the values that an object gives them, or their defaults. -/
def fitFields (Γ : Classes) (fields : List FieldDecl) (es : List (String × Json)) :
    Except Failure (List (FieldDecl × Fit)) :=
  match fields with
  | [] => .ok []
  | f :: rest =>
    let first :=
      match atKey? es f.jsonName with
      | some ⟨j, _⟩ => fit Γ f.hint j
      | none =>
        match f.default with
        | some v => .ok (.of v .exact)
        | none => .error .unfit
    Fit.both (fun a b => (f, a) :: b) first (fitFields Γ rest es)
termination_by (sizeOf es, sizeOf fields)

/-- A tree as a value of one of several hints; `best` is the best fit so far. -/
def fitUnion (Γ : Classes) (hs : List Hint) (j : Json) (best : Option Fit) :
    Except Failure Fit :=
  match hs with
  | [] =>
    match best with
    | some f => .ok f
    | none => .error .unfit
  | h :: hs =>
    match fit Γ h j with
    | .ok f => if isFinal f then .ok f else fitUnion Γ hs j (some (better best f))
    | .error .unfit => fitUnion Γ hs j best
    | .error e => .error e
termination_by (sizeOf j, sizeOf hs)

end

end Json
end Carryover
