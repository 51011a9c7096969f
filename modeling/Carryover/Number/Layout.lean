import Carryover.Number.Shortest

/-!
# The text of a double

The digits of a double are written around a point or, far from one, before an exponent.

| layout | 1e15 | 1e16 | 1e-5 | NaN | infinity |
| --- | --- | --- | --- | --- | --- |
| `Layout.literal` | `1000000000000000.0` | `1e+16` | `1e-05` | `nan` | `inf` |
| `Layout.json` | `1000000000000000.0` | `1e+16` | `0.00001` | `NaN` | `Infinity` |
| `Layout.positional` | `1000000000000000` | `10000000000000000` | `0.00001` | `NaN` | `inf` |
-/

namespace Carryover
namespace Number

/-- The choices in which the texts of doubles differ. -/
structure Layout where
  /-- The scientific exponents that are written around a point. -/
  aroundPoint : Int → Bool
  /-- What follows a whole number that has no exponent. -/
  wholeMark : List Char
  /-- The least number of digits of an exponent. -/
  exponentWidth : Nat
  nan : String
  infinity : String

namespace Layout

/-- The text of a double among other values: around a point for exponents from -4 to 15. -/
def literal : Layout :=
  ⟨fun e => -4 ≤ e && e < 16, ['.', '0'], 2, "nan", "inf"⟩

/-- The text of a double in JSON: around a point for exponents from -5 to 15. -/
def json : Layout :=
  ⟨fun e => -5 ≤ e && e < 16, ['.', '0'], 1, "NaN", "Infinity"⟩

/-- The text of a double without an exponent. -/
def positional : Layout :=
  ⟨fun _ => true, [], 1, "NaN", "inf"⟩

/-- A double without `.0` after whole numbers, otherwise as `literal`. -/
def bare : Layout :=
  { literal with wholeMark := [] }

/-- An exponent with its sign. -/
def exponentChars (l : Layout) (e : Int) : List Char :=
  let ds := Nat.toDigits 10 e.natAbs
  'e' :: (if e < 0 then '-' else '+') :: (List.replicate (l.exponentWidth - ds.length) '0' ++ ds)

/-- The magnitude `digits * 10 ^ exponent`. -/
def magnitude (l : Layout) (d : DecimalForm) : List Char :=
  let ds := Nat.toDigits 10 d.digits
  let point := d.exponent + ds.length
  if d.digits = 0 then '0' :: l.wholeMark
  else if l.aroundPoint (point - 1) then
    if point ≤ 0 then '0' :: '.' :: (List.replicate (-point).toNat '0' ++ ds)
    else if 0 ≤ d.exponent then ds ++ List.replicate d.exponent.toNat '0' ++ l.wholeMark
    else ds.take point.toNat ++ '.' :: ds.drop point.toNat
  else
    match ds with
    | [] => []
    | [c] => c :: l.exponentChars (point - 1)
    | c :: rest => c :: '.' :: (rest ++ l.exponentChars (point - 1))

/-- The characters of a double. -/
def chars (l : Layout) : Double → List Char
  | .nan => l.nan.toList
  | .infinite negative => if negative then '-' :: l.infinity.toList else l.infinity.toList
  | .finite x => if x.negative then '-' :: l.magnitude x.shortest else l.magnitude x.shortest

/-- The text of a double. -/
def render (l : Layout) (x : Double) : String :=
  String.ofList (l.chars x)

end Layout
end Number
end Carryover
