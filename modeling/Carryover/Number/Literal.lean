import Carryover.Number.Double

/-!
# Reading decimal numbers

The parts of a decimal number as they stand in a text: a sign, digits with at most one point,
an exponent. A number keeps all its digits here; `Scientific.toDouble` rounds it.

```
number    ::= sign? digits ('.' digits?)? exponent?  |  sign? '.' digits exponent?
exponent  ::= ('e' | 'E') sign? digits
```
-/

namespace Carryover
namespace Number

/-- The longest row of digits at the start of a text, and the rest. -/
def spanDigits (cs : List Char) : List Char × List Char :=
  cs.span Char.isDigit

/-- The number that a row of digits stands for. -/
def ofDigits (ds : List Char) : Nat :=
  Nat.ofDigitChars 10 ds 0

/-- The number `± digits * 10 ^ exponent`, with its digits as written. -/
structure Scientific where
  negative : Bool
  digits : Nat
  exponent : Int
  deriving DecidableEq

namespace Scientific

/-- The double nearest to the number. -/
def toDouble (n : Scientific) : Double :=
  .ofDecimal n.negative n.digits n.exponent

/-- A sign at the start of a text, and the rest. -/
def sign : List Char → Bool × List Char
  | '-' :: rest => (true, rest)
  | '+' :: rest => (false, rest)
  | rest => (false, rest)

/-- An exponent that takes the whole text; no text is the exponent zero. -/
def exponent? : List Char → Option Int
  | [] => some 0
  | c :: rest =>
    if c == 'e' || c == 'E' then
      let (negative, ds) := sign rest
      if ds.isEmpty || !ds.all Char.isDigit then none
      else some (if negative then -(ofDigits ds : Int) else ofDigits ds)
    else none

/-- The number without a sign that takes the whole text. -/
def unsigned? (negative : Bool) (cs : List Char) : Option Scientific :=
  let (whole, rest) := spanDigits cs
  let (part, rest) :=
    match rest with
    | '.' :: more => spanDigits more
    | _ => ([], rest)
  if whole.isEmpty && part.isEmpty then none
  else (exponent? rest).map fun e =>
    ⟨negative, ofDigits (whole ++ part), e - part.length⟩

/-- The number that takes the whole text. -/
def ofChars? (cs : List Char) : Option Scientific :=
  let (negative, rest) := sign cs
  unsigned? negative rest

end Scientific

namespace Double

/-- A text in ASCII lower case. -/
def asciiLower (cs : List Char) : List Char :=
  cs.map Char.toLower

/-- The double that a text names: a decimal number, or `nan`, `inf` or `infinity` with a sign,
in any case. -/
def ofChars? (cs : List Char) : Option Double :=
  let (negative, rest) := Scientific.sign cs
  let word := String.ofList (asciiLower rest)
  if word = "nan" then some .nan
  else if word = "inf" || word = "infinity" then some (.infinite negative)
  else (Scientific.ofChars? cs).map Scientific.toDouble

end Double
end Number
end Carryover
