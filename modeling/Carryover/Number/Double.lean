import Carryover.Number.Rounding

/-!
# Binary64 numbers, exactly

A double is a NaN, an infinity, or a sign, a mantissa and an exponent that stand for
`± mantissa * 2 ^ exponent`. Each value but zero has one canonical form, and zero has one for
each sign:

| | mantissa | exponent |
| --- | --- | --- |
| normal | from `2 ^ 52` to below `2 ^ 53` | from -1074 to 971 |
| subnormal, zero | below `2 ^ 52` | -1074 |

A fraction is read as the nearest double, a tie as the one with the even mantissa; from
`2 ^ 1024` less half a step on it is read as infinity.
-/

namespace Carryover
namespace Number

-- A power is the one of the core library, whatever other powers are in scope.
attribute [local instance (high)] instPowNat

/-- The one form of a mantissa and an exponent that a finite double is kept in. -/
def Canonical (mantissa : Nat) (exponent : Int) : Prop :=
  mantissa < 2 ^ (53 : Nat) ∧ -1074 ≤ exponent ∧ exponent ≤ 971 ∧
    (2 ^ (52 : Nat) ≤ mantissa ∨ exponent = -1074)

instance (mantissa : Nat) (exponent : Int) : Decidable (Canonical mantissa exponent) :=
  inferInstanceAs (Decidable (_ ∧ _ ∧ _ ∧ (_ ∨ _)))

/-- A finite double: `± mantissa * 2 ^ exponent`. -/
structure Finite where
  negative : Bool
  mantissa : Nat
  exponent : Int
  canonical : Canonical mantissa exponent
  deriving DecidableEq

/-- A binary64 number. -/
inductive Double where
  | nan
  | infinite (negative : Bool)
  | finite (x : Finite)
  deriving DecidableEq

namespace Finite

/-- Zero with a sign. -/
def zero (negative : Bool) : Finite :=
  ⟨negative, 0, -1074, by decide⟩

/-- The magnitude is `num / den`. -/
def num (x : Finite) : Nat :=
  x.mantissa * 2 ^ x.exponent.toNat

/-- The magnitude is `num / den`. -/
def den (x : Finite) : Nat :=
  2 ^ (-x.exponent).toNat

/-- A finite double is a quotient by a positive number. -/
theorem den_pos (x : Finite) : 0 < x.den :=
  Nat.two_pow_pos _

/-- Whether the value is a whole number. -/
def isWhole (x : Finite) : Bool :=
  x.num % x.den == 0

/-- The whole part, toward zero. -/
def truncate (x : Finite) : Int :=
  let magnitude : Int := x.num / x.den
  if x.negative then -magnitude else magnitude

end Finite

namespace Double

/-- Zero with a sign. -/
def zero (negative : Bool) : Double :=
  .finite (.zero negative)

instance : Inhabited Double := ⟨zero false⟩

/-- The fraction `num / den` in units of `2 ^ e`. -/
def inUnits (num den : Nat) (e : Int) : Nat × Nat :=
  (num * 2 ^ (-e).toNat, den * 2 ^ e.toNat)

/-- The exponent of the double nearest to `num / den`, before rounding: the one with which the
fraction has 53 binary digits before the point, but at least -1074. -/
def exponentOf (num den : Nat) : Int :=
  let e : Int := (num.log2 : Int) - den.log2 - 53
  let u := inUnits num den e
  max (-1074) (if u.1 < u.2 * 2 ^ (53 : Nat) then e else e + 1)

/-- The double nearest to `num / den`. -/
def ofRatio (negative : Bool) (num den : Nat) : Double :=
  if num = 0 then zero negative
  else
    let e := exponentOf num den
    let u := inUnits num den e
    let m := roundHalfEven u.1 u.2
    if h : Canonical m e then .finite ⟨negative, m, e, h⟩
    else if h : m = 2 ^ (53 : Nat) ∧ Canonical (2 ^ (52 : Nat)) (e + 1) then
      .finite ⟨negative, 2 ^ (52 : Nat), e + 1, h.2⟩
    else .infinite negative

/-- The double nearest to `digits * 10 ^ exponent`. Below `10 ^ -330` that is zero, and from
`10 ^ 310` on infinity. -/
def ofDecimal (negative : Bool) (digits : Nat) (exponent : Int) : Double :=
  let magnitude := exponent + (Nat.toDigits 10 digits).length
  if digits = 0 then zero negative
  else if magnitude < -330 then zero negative
  else if 310 < magnitude then .infinite negative
  else ofRatio negative (digits * 10 ^ exponent.toNat) (10 ^ (-exponent).toNat)

/-- The double nearest to a whole number. -/
def ofInt (i : Int) : Double :=
  ofDecimal (i < 0) i.natAbs 0

/-- Whether the sign is a minus; a NaN has none. -/
def isNegative : Double → Bool
  | .nan => false
  | .infinite negative => negative
  | .finite x => x.negative

/-- Whether the value is zero, of either sign. -/
def isZero : Double → Bool
  | .finite x => x.mantissa == 0
  | _ => false

end Double
end Number
end Carryover
