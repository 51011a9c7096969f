import Carryover.Session

/-!
# One element of a sequence

A directive with an index takes one element of a sequence. Of a value that is no sequence it
takes the value itself and warns; of a sequence that is too short it takes nothing.

| value | taken at `i` |
| --- | --- |
| no sequence | the value |
| empty sequence | nothing |
| too many elements to be counted | fails |
| at most `i` elements | nothing |
| more | the element at `i`, a negative `i` counting from the end |
-/

namespace Carryover

/-- No sequence that can be counted has this many elements. -/
def countLimit : Nat := 9223372036854775808

namespace Value

/-- The elements of a sequence. Texts, bytes, sets and mappings are no sequences here. -/
def elements? : Value → Option (List Value)
  | .row .set _ | .row .frozenset _ => none
  | .row _ items => some items
  | .range r => some (r.toList.map .int)
  | .octets .memoryview bytes => some (bytes.map fun b => .int b.toNat)
  | _ => none

/-- Whether the value is a sequence. -/
def isIndexable : Value → Bool
  | .row .set _ | .row .frozenset _ => false
  | .row .. | .range _ | .octets .memoryview _ => true
  | _ => false

/-- Whether the value is a sequence of more elements than can be counted. Only a range is. -/
def isUncountable : Value → Bool
  | .range r => countLimit ≤ r.size
  | _ => false

end Value

/-- The element at a position, a negative one counting from the end. -/
def elementAt? (items : List Value) (i : Int) : Option Value :=
  if 0 ≤ i then items[i.toNat]?
  else if 0 ≤ i + items.length then items[(i + items.length).toNat]?
  else none

/-- The element that a directive takes from the value of a field or a parameter. -/
def takeElement (role name : String) (v : Value) (i : Int) : Run Value := do
  if v.isUncountable then throw (.raised .uncountable)
  match v.elements? with
  | none =>
    Run.note (.notSequence role name)
    return v
  | some [] => return .null
  | some items =>
    if (items.length : Int) ≤ i then
      Run.note (.outOfBounds i role name items.length)
      return .null
    else
      match elementAt? items i with
      | some w => return w
      | none => throw .beyondStart

end Carryover
