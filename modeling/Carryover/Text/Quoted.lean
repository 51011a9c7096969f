import Carryover.Text.Printable

/-!
# Quoted text

A text between quotes, on one line and in printable characters.

| character | written |
| --- | --- |
| the quote, the backslash | after a backslash |
| U+000A, U+000D, U+0009 | `\n`, `\r`, `\t` |
| not printable, below U+0100 | `\x` and two hexadecimal digits |
| not printable, below U+10000 | `\u` and four |
| not printable, from U+10000 on | `\U` and eight |
| any other | as it is |

The quote is the apostrophe, or the double quote for a text with an apostrophe and no double
quote.
-/

namespace Carryover
namespace Text

/-- The lower-case hexadecimal digit of `d < 16`. -/
def hexDigit (d : Nat) : Char :=
  if d < 10 then Char.ofNat (48 + d) else Char.ofNat (87 + d)

/-- The last `width` hexadecimal digits of `n`, the most significant first. -/
def hexDigits : Nat → Nat → List Char
  | 0, _ => []
  | width + 1, n => hexDigits width (n / 16) ++ [hexDigit (n % 16)]

namespace Quoted

/-- The quote that a text is put between. -/
def quoteFor (cs : List Char) : Char :=
  if cs.contains '\'' && !cs.contains '"' then '"' else '\''

/-- One character between quotes. -/
def escape (quote c : Char) : List Char :=
  if c == quote || c == '\\' then ['\\', c]
  else if c == '\n' then ['\\', 'n']
  else if c == '\r' then ['\\', 'r']
  else if c == '\t' then ['\\', 't']
  else if isPrintable c then [c]
  else if c.toNat < 0x100 then '\\' :: 'x' :: hexDigits 2 c.toNat
  else if c.toNat < 0x10000 then '\\' :: 'u' :: hexDigits 4 c.toNat
  else '\\' :: 'U' :: hexDigits 8 c.toNat

/-- The characters of a text between quotes. -/
def chars (cs : List Char) : List Char :=
  let quote := quoteFor cs
  quote :: (cs.flatMap (escape quote) ++ [quote])

end Quoted

/-- A text between quotes. -/
def quoted (s : String) : String :=
  String.ofList (Quoted.chars s.toList)

namespace Quoted

/-- The quote of a row of bytes, by the rule of `quoteFor`. -/
def quoteForBytes (bytes : List UInt8) : Char :=
  if bytes.contains 0x27 && !bytes.contains 0x22 then '"' else '\''

/-- One byte between quotes, with a backslash before `mark`: as a character, but only ASCII is
printable. -/
def escapeByte (mark : Char) (b : UInt8) : List Char :=
  if b < 0x7F then
    escape mark (Char.ofNat b.toNat)
  else
    '\\' :: 'x' :: hexDigits 2 b.toNat

end Quoted

/-- Bytes between quotes, after the letter `b`. -/
def quotedBytes (bytes : List UInt8) : String :=
  let quote := Quoted.quoteForBytes bytes
  String.ofList ('b' :: quote :: (bytes.flatMap (Quoted.escapeByte quote) ++ [quote]))

/-- The same, but an apostrophe comes after a backslash whatever the quote is. -/
def quotedMutableBytes (bytes : List UInt8) : String :=
  let quote := Quoted.quoteForBytes bytes
  String.ofList ('b' :: quote :: (bytes.flatMap (Quoted.escapeByte '\'') ++ [quote]))

end Text
end Carryover
