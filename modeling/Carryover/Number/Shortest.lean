import Carryover.Number.Double

/-!
# The fewest digits that read back

A finite double is written with the fewest decimal digits that read back as the same double,
and among the numbers with that many digits by the nearest. On the grid of the numbers with
`n` digits only the two neighbours of the value can be that number, so for `n = 1, 2, …, 17`
the nearer neighbour is tried and then the other one.
-/

namespace Carryover
namespace Number

-- A power is the one of the core library, whatever other powers are in scope.
attribute [local instance (high)] instPowNat

/-- A decimal number `digits * 10 ^ exponent` without a trailing zero. -/
structure DecimalForm where
  digits : Nat
  exponent : Int
  deriving DecidableEq

/-- Moves the trailing zeros of the digits into the exponent. -/
def DecimalForm.strip (digits : Nat) (exponent : Int) : DecimalForm :=
  if digits = 0 then ⟨0, 0⟩
  else if digits % 10 = 0 then strip (digits / 10) (exponent + 1)
  else ⟨digits, exponent⟩
termination_by digits
decreasing_by omega

namespace Finite

/-- The number of decimal digits before the point: the value is below `10 ^ point` and not
below `10 ^ (point - 1)`. -/
def point (x : Finite) : Int :=
  (Nat.toDigits 10 (x.num * 10 ^ (400 : Nat) / x.den)).length - 400

/-- Whether a decimal number reads back as the double. -/
def readsBack (x : Finite) (d : DecimalForm) : Bool :=
  Double.ofDecimal x.negative d.digits d.exponent == .finite x

/-- The multiple of `10 ^ k` that reads back as the double, the nearer one of two. -/
def onGrid? (x : Finite) (k : Int) : Option DecimalForm :=
  let num := x.num * 10 ^ (-k).toNat
  let den := x.den * 10 ^ k.toNat
  let low := num / den
  let near := roundHalfEven num den
  let far := if near = low then low + 1 else low
  [near, far].map (DecimalForm.strip · k) |>.find? x.readsBack

/-- All the decimal digits of the value. -/
def exact (x : Finite) : DecimalForm :=
  DecimalForm.strip (x.num * 5 ^ (-x.exponent).toNat) (min x.exponent 0)

/-- The fewest digits that read back. -/
def shortest (x : Finite) : DecimalForm :=
  if x.mantissa = 0 then ⟨0, 0⟩
  else
    let point := x.point
    ((List.range 17).findSome? fun (n : Nat) => x.onGrid? (point - n - 1)).getD x.exact

end Finite
end Number
end Carryover
