import Carryover.Number.Literal
import Carryover.Number.Shortest
import Carryover.Text.Blank
import Carryover.Text.Digit

/-!
# Decimal numbers with their trailing zeros

A decimal number keeps the digits it was written with: 1.5 and 1.50 are equal and are written
differently. A NaN may be a signalling one, which refuses comparison, and may carry a payload.

| coefficient, exponent | text |
| --- | --- |
| 110, -2 | `1.10` |
| 1, 3 | `1E+3` |
| 0, -7 | `0E-7` |
| 1, -6 | `0.000001` |
-/

namespace Carryover
namespace Number

-- A power is the one of the core library, whatever other powers are in scope.
attribute [local instance (high)] instPowNat

/-- A decimal number as written. -/
inductive Decimal where
  | finite (negative : Bool) (coefficient : Nat) (exponent : Int)
  | infinite (negative : Bool)
  | nan (negative signalling : Bool) (payload : Nat)
  deriving DecidableEq

namespace Decimal

/-- Whether the number is neither infinite nor a NaN. -/
def isFinite : Decimal → Bool
  | .finite .. => true
  | _ => false

/-- Whether the number is a signalling NaN. -/
def isSignalling : Decimal → Bool
  | .nan _ signalling _ => signalling
  | _ => false

/-- The exact value of a finite number. -/
def toRat? : Decimal → Option Rat
  | .finite negative c e =>
    let magnitude := mkRat (c * 10 ^ e.toNat : Nat) (10 ^ (-e).toNat)
    some (if negative then -magnitude else magnitude)
  | _ => none

/-- The magnitude of a finite number: with an exponent when that is positive or the first digit
is more than six places behind the point. -/
def magnitude (c : Nat) (e : Int) : List Char :=
  let ds := Nat.toDigits 10 c
  let point := e + ds.length
  if e ≤ 0 && -6 < point then
    if point ≤ 0 then '0' :: '.' :: (List.replicate (-point).toNat '0' ++ ds)
    else if e = 0 then ds
    else ds.take point.toNat ++ '.' :: ds.drop point.toNat
  else
    let shown := point - 1
    let first := ds.take 1 ++ (if ds.length ≤ 1 then [] else '.' :: ds.drop 1)
    first ++ 'E' :: (if shown < 0 then '-' else '+') :: Nat.toDigits 10 shown.natAbs

/-- The characters of a decimal number. -/
def chars : Decimal → List Char
  | .finite negative c e => (if negative then ['-'] else []) ++ magnitude c e
  | .infinite negative => (if negative then ['-'] else []) ++ "Infinity".toList
  | .nan negative signalling payload =>
    (if negative then ['-'] else []) ++ (if signalling then "sNaN" else "NaN").toList ++
      (if payload = 0 then [] else Nat.toDigits 10 payload)

/-- The text of a decimal number. -/
def render (d : Decimal) : String :=
  String.ofList d.chars

/-- The digits of any script as ASCII digits. -/
def toAscii (c : Char) : Char :=
  match Text.digit? c with
  | some d => Nat.digitChar d
  | none => c

/-- The decimal number that takes the whole text, in ASCII. -/
def ofAscii? (cs : List Char) : Option Decimal :=
  let (negative, rest) := Scientific.sign cs
  let word := Double.asciiLower rest
  if word = "inf".toList || word = "infinity".toList then some (.infinite negative)
  else if word.take 3 = "nan".toList && (word.drop 3).all Char.isDigit then
    some (.nan negative false (ofDigits (word.drop 3)))
  else if word.take 4 = "snan".toList && (word.drop 4).all Char.isDigit then
    some (.nan negative true (ofDigits (word.drop 4)))
  else (Scientific.unsigned? negative rest).map fun n =>
    .finite n.negative n.digits n.exponent

/-- The decimal number that takes a text: blanks around it and underscores are dropped, and
digits may be of any script. -/
def ofText? (s : String) : Option Decimal :=
  ofAscii? (((Text.trimBy Text.isBlank s.toList).filter (· != '_')).map toAscii)

end Decimal
end Number
end Carryover
