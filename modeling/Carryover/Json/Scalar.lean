import Carryover.Json.Basic
import Carryover.Number.Decimal
import Carryover.Number.Fraction
import Carryover.Number.Layout
import Carryover.Failure

/-!
# Numbers and flags from JSON

A number or a flag may come as another scalar.

| to be read | from |
| --- | --- |
| whole number | a whole number, a flag, a double without a fraction and below `2 ^ 63`, a text |
| double | a number, a flag, a text |
| flag | a flag, 0 or 1, a text |
| decimal | a number, a text |
| fraction | a number, a flag, a text |

The texts of whole numbers and doubles may have white space around them and single underscores
inside; the text of a whole number may end with a point and zeros.
-/

namespace Carryover
namespace Json

open Number

-- A power is the one of the core library, whatever other powers are in scope.
attribute [local instance (high)] instPowNat

/-- A text without its underscores, which have to stand alone and inside of it. -/
def withoutUnderscores? (cs : List Char) : Option (List Char) :=
  let lone := cs.zip (cs.drop 1) |>.all fun (a, b) => !(a == '_' && b == '_')
  if cs.head? == some '_' || cs.getLast? == some '_' || !lone then none
  else some (cs.filter (· != '_'))

/-- The digits of a whole number up to a point and zeros. -/
def wholeDigits? (cs : List Char) : Option (List Char) :=
  let (whole, rest) := cs.span (· != '.')
  match rest with
  | [] => some whole
  | _ :: zeros => if zeros.isEmpty || !zeros.all (· == '0') then none else some whole

/-- The whole number that a text stands for. -/
def intOfText? (s : String) : Option Int := do
  let (negative, rest) := Scientific.sign (Text.trimBy Text.isSpace s.toList)
  let whole ← wholeDigits? rest
  let ds ← withoutUnderscores? whole
  if ds.isEmpty || !ds.all Char.isDigit || 4300 < ds.length then none
  else some (if negative then -(ofDigits ds : Int) else ofDigits ds)

/-- The double that a text stands for. -/
def doubleOfText? (s : String) : Option Double :=
  let cs := Text.trimBy Text.isSpace s.toList
  match Double.ofChars? cs with
  | some x => some x
  | none => (withoutUnderscores? cs).bind Double.ofChars?

/-- The texts that stand for a true flag, in any case. -/
def trueWords : List String := ["1", "on", "t", "true", "y", "yes"]

/-- The texts that stand for a false flag, in any case. -/
def falseWords : List String := ["0", "off", "f", "false", "n", "no"]

/-- The flag that a text stands for. -/
def boolOfText? (s : String) : Option Bool :=
  let word := String.ofList (Double.asciiLower s.toList)
  if trueWords.contains word then some true
  else if falseWords.contains word then some false
  else none

/-- The whole number that a double is, if it is one and below `2 ^ 63`. -/
def intOfDouble? : Double → Option Int
  | .finite x => if x.isWhole && x.truncate.natAbs < 2 ^ (63 : Nat) then some x.truncate else none
  | _ => none

/-- A scalar as a whole number. -/
def toInt? : Json → Option Int
  | .int i => some i
  | .bool b => some (if b then 1 else 0)
  | .float x => intOfDouble? x
  | .text s => intOfText? s
  | _ => none

/-- A scalar as a double. -/
def toDouble? : Json → Option Double
  | .float x => some x
  | .int i => some (.ofInt i)
  | .bool b => some (.ofInt (if b then 1 else 0))
  | .text s => doubleOfText? s
  | _ => none

/-- A scalar as a flag. -/
def toBool? : Json → Option Bool
  | .bool b => some b
  | .int 0 => some false
  | .int 1 => some true
  | .float x =>
    match intOfDouble? x with
    | some 0 => some false
    | some 1 => some true
    | _ => none
  | .text s => boolOfText? s
  | _ => none

/-- A scalar as a decimal number; a double by its fewest digits. -/
def toDecimal? (j : Json) : Option Decimal :=
  let d : Option Decimal := match j with
    | .int i => some (.finite (i < 0) i.natAbs 0)
    | .float x => Decimal.ofText? (Layout.positional.render x)
    | .text s => Decimal.ofText? s
    | _ => none
  d.filter Decimal.isFinite

/-- A scalar as a fraction. -/
def toFraction? : Json → Option Rat
  | .int i => some i
  | .bool b => some (if b then 1 else 0)
  | .float x => x.toRat?
  | .text s => Fraction.ofText? s
  | _ => none

/-- A text as a complex number: a real part, an imaginary part before `j`, or both. -/
def complexOfText? (s : String) : Option (Double × Double) :=
  let cs := Text.trimBy Text.isBlank s.toList
  let cs := if cs.head? == some '(' && cs.getLast? == some ')' then
      Text.trimBy Text.isBlank ((cs.drop 1).dropLast) else cs
  if cs.getLast? == some 'j' || cs.getLast? == some 'J' then
    let body := cs.dropLast
    let part (ds : List Char) : Option Double :=
      if ds = [] || ds = ['+'] then some (.ofInt 1)
      else if ds = ['-'] then some (.ofInt (-1))
      else Double.ofChars? ds
    let cuts := (List.range body.length).reverse.filter fun i =>
      0 < i && (body[i]? == some '+' || body[i]? == some '-') &&
        !(body[i - 1]? == some 'e' || body[i - 1]? == some 'E')
    match cuts with
    | [] => (part body).map (Double.zero false, ·)
    | i :: _ => do
      let re ← Double.ofChars? (body.take i)
      let im ← part (body.drop i)
      some (re, im)
  else (Double.ofChars? cs).map (·, Double.zero false)

/-- A scalar as a complex number. -/
def toComplex? : Json → Option (Double × Double)
  | .int i => some (.ofInt i, .zero false)
  | .float x => some (x, .zero false)
  | .text s => complexOfText? s
  | _ => none

end Json
end Carryover
