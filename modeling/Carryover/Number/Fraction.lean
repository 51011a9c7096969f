import Carryover.Number.Literal
import Carryover.Text.Blank
import Carryover.Text.Digit

/-!
# Fractions as text

A fraction is written `n/d`, a whole number `n`. A text is read as a fraction by

```
fraction  ::= sign? digits '/' digits  |  sign? digits ('.' digits?)? exponent?
            | sign? '.' digits? exponent?
digits    ::= digit+ ('_' digit+)*
```

with blanks around it and digits of any script.
-/

namespace Carryover
namespace Number
namespace Fraction

-- A power is the one of the core library, whatever other powers are in scope.
attribute [local instance (high)] instPowNat

/-- The text of a fraction. -/
def render (q : Rat) : String :=
  if q.den = 1 then toString q.num else toString q.num ++ "/" ++ toString q.den

/-- A row of digits, in which a single underscore may stand between two of them, and the rest;
`inside` says that a digit has just been read. -/
def spanFrom (inside : Bool) : List Char → List Nat × List Char
  | [] => ([], [])
  | c :: rest =>
    match Text.digit? c with
    | some d =>
      let (ds, tail) := spanFrom true rest
      (d :: ds, tail)
    | none =>
      if inside && c == '_' && (rest.head?.bind Text.digit?).isSome then spanFrom false rest
      else ([], c :: rest)

/-- A row of digits at the start of a text, and the rest. -/
def spanGroups (cs : List Char) : List Nat × List Char :=
  spanFrom false cs

/-- The number that a row of digit values stands for. -/
def ofDigitValues (ds : List Nat) : Nat :=
  ds.foldl (fun n d => 10 * n + d) 0

/-- An exponent that takes the whole text; no text is the exponent zero. -/
def exponent? : List Char → Option Int
  | [] => some 0
  | c :: rest =>
    if c == 'e' || c == 'E' then
      let (negative, ds) := Scientific.sign rest
      match spanGroups ds with
      | (d :: ds, []) =>
        let n := ofDigitValues (d :: ds)
        some (if negative then -(n : Int) else n)
      | _ => none
    else none

/-- `± digits * 10 ^ exponent` as a fraction. -/
def ofScientific (negative : Bool) (digits : Nat) (exponent : Int) : Rat :=
  let magnitude := mkRat (digits * 10 ^ exponent.toNat : Nat) (10 ^ (-exponent).toNat)
  if negative then -magnitude else magnitude

/-- The fraction that a text stands for; none has the denominator zero. -/
def ofText? (s : String) : Option Rat :=
  let (negative, rest) := Scientific.sign (Text.trimBy Text.isBlank s.toList)
  let (whole, rest) := spanGroups rest
  match rest with
  | '/' :: more =>
    match whole, spanGroups more with
    | w :: whole, (d :: ds, []) =>
      let n : Int := ofDigitValues (w :: whole)
      let n := if negative then -n else n
      let den := ofDigitValues (d :: ds)
      if den = 0 then none else some (mkRat n den)
    | _, _ => none
  | _ =>
    let (part, rest) :=
      match rest with
      | '.' :: more => spanGroups more
      | _ => ([], rest)
    if whole.isEmpty && part.isEmpty then none
    else
      (exponent? rest).map fun e =>
        ofScientific negative (ofDigitValues (whole ++ part)) (e - part.length)

end Fraction

/-- The exact value of a finite double. -/
def Finite.toRat (x : Finite) : Rat :=
  let magnitude := mkRat x.num x.den
  if x.negative then -magnitude else magnitude

/-- The exact value of a double, if it has one. -/
def Double.toRat? : Double → Option Rat
  | .finite x => some x.toRat
  | _ => none

end Number
end Carryover
