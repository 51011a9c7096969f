import Carryover.Value.Basic

/-!
# Equality of values

Numbers are equal when they stand for the same number, whatever their kinds; a NaN equals
nothing. A number of a declared class is equal to itself alone, which its mark tells. Texts are
equal when their characters are, rows when they are of one family and equal item by item, sets and
mappings without regard to order. Members of plain enumerations are equal to themselves alone, and
so are objects and iterators.

| family | kinds |
| --- | --- |
| numbers | flags, whole numbers, doubles, decimals, fractions, complex numbers |
| texts | plain texts, JSON texts, members of text enumerations |
| rows | lists with user lists; tuples; deques; sets with frozen sets; ranges; bytes |
-/

namespace Carryover

open Number Calendar

/-- A number as far as equality goes. -/
inductive Quantity where
  | unordered
  | infinite (negative : Bool)
  | exact (q : Rat)
  /-- A number that equals none but itself. -/
  | marked (mark : Nat)
  deriving DecidableEq

/-- Equality of numbers. -/
def Quantity.equals : Quantity → Quantity → Bool
  | .infinite s, .infinite t => s == t
  | .exact p, .exact q => p == q
  | .marked m, .marked n => m == n
  | _, _ => false

/-- A double as far as equality goes. -/
def Number.Double.quantity : Double → Quantity
  | .nan => .unordered
  | .infinite negative => .infinite negative
  | .finite x => .exact x.toRat

/-- A decimal number as far as equality goes. -/
def Number.Decimal.quantity (d : Decimal) : Quantity :=
  match d, d.toRat? with
  | _, some q => .exact q
  | .infinite negative, none => .infinite negative
  | _, none => .unordered

namespace RowForm

/-- The forms whose rows can be equal. -/
def family : RowForm → RowForm
  | .userList => .list
  | .frozenset => .set
  | form => form

end RowForm

namespace Value

/-- The real and the imaginary part of a number. -/
def quantity? : Value → Option (Quantity × Quantity)
  | .bool b => some (.exact (if b then 1 else 0), .exact 0)
  | .int i => some (.exact i, .exact 0)
  | .float x => some (x.quantity, .exact 0)
  | .complex re im => some (re.quantity, im.quantity)
  | .decimal d => some (d.quantity, .exact 0)
  | .fraction q => some (.exact q, .exact 0)
  | .member _ .int _ (.int i) => some (.exact i, .exact 0)
  | .number mark _ _ => some (.marked mark, .exact 0)
  | _ => none

/-- A moment in microseconds, and whether it is known in UTC. -/
def moment (t : DateTime) : Int × Bool :=
  let seconds : Int :=
    t.date.days * 86400 + t.time.hour * 3600 + t.time.minute * 60 + t.time.second
  ((seconds - t.time.offset.getD 0) * 1000000 + t.time.micro, t.time.offset.isSome)

/-- Equality of values that hold no other values. -/
def scalarEquals (v w : Value) : Bool :=
  match v.quantity?, w.quantity? with
  | some (a, b), some (c, d) => a.equals c && b.equals d
  | _, _ =>
    match v.asText?, w.asText? with
    | some s, some t => s == t
    | _, _ =>
      match v, w with
      | .null, .null => true
      | .octets _ a, .octets _ b => a == b
      | .range r, .range s => r.toList == s.toList
      | .date a, .date b => a == b
      | .datetime a, .datetime b => moment a == moment b
      | .time a, .time b => a == b
      | .duration a, .duration b => a == b
      | .uuid a, .uuid b => a == b
      | .member c _ a _, .member d _ b _ => c == d && a == b
      | .iterator _ m _, .iterator _ n _ => m == n
      | _, _ => false

mutual

/-- Equality of values. -/
def equals : Value → Value → Bool
  | .row form xs, w =>
    match w with
    | .row form' ys =>
      form.family == form'.family &&
        (if form.family == .set then xs.length == ys.length && allWithin xs ys
         else rowEquals xs ys)
    | _ => false
  | .dict es, w =>
    match w with
    | .dict fs => es.length == fs.length && entriesWithin es fs
    | _ => false
  | v, w => scalarEquals v w

/-- Equality of rows, item by item. -/
def rowEquals : List Value → List Value → Bool
  | [], [] => true
  | x :: xs, y :: ys => equals x y && rowEquals xs ys
  | _, _ => false

/-- Whether each value equals one of a row. -/
def allWithin : List Value → List Value → Bool
  | [], _ => true
  | x :: xs, ys => ys.any (fun y => equals x y) && allWithin xs ys

/-- Whether each entry equals one of a mapping. -/
def entriesWithin : List (Value × Value) → List (Value × Value) → Bool
  | [], _ => true
  | (k, v) :: es, fs => fs.any (fun f => equals k f.1 && equals v f.2) && entriesWithin es fs

end

/-- The first of the equal items of a row. -/
def distinct (xs : List Value) : List Value :=
  xs.foldl (fun acc x => if acc.any fun y => equals y x then acc else acc ++ [x]) []

/-- Writes an entry to a mapping: an equal key keeps its place and takes the value. -/
def putEntry (es : List (Value × Value)) (k v : Value) : List (Value × Value) :=
  match es with
  | [] => [(k, v)]
  | (k', v') :: rest => if equals k' k then (k', v) :: rest else (k', v') :: putEntry rest k v

/-- The mapping that entries written one after the other make. -/
def dictOf (es : List (Value × Value)) : Value :=
  .dict (es.foldl (fun acc e => putEntry acc e.1 e.2) [])

end Value
end Carryover
