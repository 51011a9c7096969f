import Carryover.Json.Basic
import Carryover.Number.Literal

/-!
# Reading JSON

A text is cut into tokens, and the tokens are put together to a tree.

```
value   ::= scalar | '[' (value (',' value)*)? ']' | '{' (member (',' member)*)? '}'
member  ::= text ':' value
scalar  ::= 'null' | 'true' | 'false' | 'NaN' | '-'? 'Infinity' | number | text
number  ::= '-'? ('0' | nonzero digit*) ('.' digit+)? (('e' | 'E') ('+' | '-')? digit+)?
```

Blanks between tokens are U+0009, U+000A, U+000D and U+0020. A number with neither a fraction
nor an exponent is a whole number, of at most 4300 digits. A surrogate in a text is written as
the first half of a pair. A value stands inside of at most 200 lists and objects. Of the values
under one key the last counts, in the place of the first.
-/

namespace Carryover
namespace Json

open Number

/-- A piece of a JSON text. -/
inductive Token where
  | openList
  | closeList
  | openObject
  | closeObject
  | comma
  | colon
  | scalar (j : Json)

/-- The value of a hexadecimal digit. -/
def hexValue? (c : Char) : Option Nat :=
  if c.isDigit then some (c.toNat - 48)
  else if 'a' ≤ c && c ≤ 'f' then some (c.toNat - 87)
  else if 'A' ≤ c && c ≤ 'F' then some (c.toNat - 55)
  else none

/-- The number that four hexadecimal digits stand for, and the rest. -/
def fourHex? : List Char → Option (Nat × List Char)
  | a :: b :: c :: d :: rest => do
    let a ← hexValue? a
    let b ← hexValue? b
    let c ← hexValue? c
    let d ← hexValue? d
    some (((a * 16 + b) * 16 + c) * 16 + d, rest)
  | _ => none

/-- The character that a code after `\u` stands for, with the second half of a pair, and the
rest. -/
def unicodeEscape? (cs : List Char) : Option (Char × List Char) := do
  let (n, rest) ← fourHex? cs
  if 0xD800 ≤ n && n < 0xDC00 then
    match rest with
    | '\\' :: 'u' :: rest =>
      let (m, rest) ← fourHex? rest
      if 0xDC00 ≤ m && m < 0xE000 then
        some (Char.ofNat (0x10000 + (n - 0xD800) * 0x400 + (m - 0xDC00)), rest)
      else none
    | _ => none
  else if 0xDC00 ≤ n && n < 0xE000 then none
  else some (Char.ofNat n, rest)

/-- The character after a backslash, and the rest. -/
def escaped? : List Char → Option (Char × List Char)
  | '"' :: rest => some ('"', rest)
  | '\\' :: rest => some ('\\', rest)
  | '/' :: rest => some ('/', rest)
  | 'b' :: rest => some ('\x08', rest)
  | 'f' :: rest => some ('\x0c', rest)
  | 'n' :: rest => some ('\n', rest)
  | 'r' :: rest => some ('\r', rest)
  | 't' :: rest => some ('\t', rest)
  | 'u' :: rest => unicodeEscape? rest
  | _ => none

/-- The characters of a text up to its closing quote, and the rest, in at most `fuel` steps. -/
def textBody? : Nat → List Char → Option (List Char × List Char)
  | 0, _ => none
  | _, [] => none
  | fuel + 1, c :: rest =>
    if c == '"' then some ([], rest)
    else if c == '\\' then do
      let (c, rest) ← escaped? rest
      let (cs, rest) ← textBody? fuel rest
      some (c :: cs, rest)
    else if c.toNat < 0x20 then none
    else do
      let (cs, rest) ← textBody? fuel rest
      some (c :: cs, rest)

/-- The digits after a point, if there is one, and the rest. -/
def fraction? : List Char → Option (Option (List Char) × List Char)
  | '.' :: rest =>
    let (ds, rest) := spanDigits rest
    if ds.isEmpty then none else some (some ds, rest)
  | rest => some (none, rest)

/-- The exponent after a mark, if there is one, and the rest. -/
def exponent? : List Char → Option (Option Int × List Char)
  | c :: rest =>
    if c == 'e' || c == 'E' then
      let (negative, rest) := Scientific.sign rest
      let (ds, rest) := spanDigits rest
      if ds.isEmpty then none
      else some (some (if negative then -(ofDigits ds : Int) else ofDigits ds), rest)
    else some (none, c :: rest)
  | [] => some (none, [])

/-- A number at the start of a text, after its sign, and the rest. -/
def number? (negative : Bool) (cs : List Char) : Option (Json × List Char) := do
  let (whole, rest) := spanDigits cs
  match whole with
  | [] => none
  | '0' :: _ :: _ => none
  | _ =>
    let (part, rest) ← fraction? rest
    let (e, rest) ← exponent? rest
    match part, e with
    | none, none =>
      if 4300 < whole.length then none
      else
        let n : Int := ofDigits whole
        some (.int (if negative then -n else n), rest)
    | part, e =>
      let part := part.getD []
      let n : Scientific := ⟨negative, ofDigits (whole ++ part), e.getD 0 - part.length⟩
      some (.float n.toDouble, rest)

/-- Drops a word that has to stand at the start of a text. -/
def word? (w cs : List Char) : Option (List Char) :=
  if w.isPrefixOf cs then some (cs.drop w.length) else none

/-- The blanks between tokens. -/
def isGap (c : Char) : Bool :=
  c == ' ' || c == '\n' || c == '\r' || c == '\t'

/-- The first token of a text that begins with one, and the rest. -/
def token? (cs : List Char) : Option (Token × List Char) :=
  match cs with
  | '[' :: rest => some (.openList, rest)
  | ']' :: rest => some (.closeList, rest)
  | '{' :: rest => some (.openObject, rest)
  | '}' :: rest => some (.closeObject, rest)
  | ',' :: rest => some (.comma, rest)
  | ':' :: rest => some (.colon, rest)
  | '"' :: rest =>
    (textBody? (rest.length + 1) rest).map fun (s, rest) =>
      (.scalar (.text (String.ofList s)), rest)
  | 'n' :: rest => (word? ['u', 'l', 'l'] rest).map (.scalar .null, ·)
  | 't' :: rest => (word? ['r', 'u', 'e'] rest).map (.scalar (.bool true), ·)
  | 'f' :: rest => (word? ['a', 'l', 's', 'e'] rest).map (.scalar (.bool false), ·)
  | 'N' :: rest => (word? ['a', 'N'] rest).map (.scalar (.float .nan), ·)
  | 'I' :: rest =>
    (word? "nfinity".toList rest).map (.scalar (.float (.infinite false)), ·)
  | '-' :: 'I' :: rest =>
    (word? "nfinity".toList rest).map (.scalar (.float (.infinite true)), ·)
  | '-' :: rest => (number? true rest).map fun (j, rest) => (.scalar j, rest)
  | cs => (number? false cs).map fun (j, rest) => (.scalar j, rest)

/-- The tokens of a text, in at most `fuel` steps. -/
def tokens? : Nat → List Char → Option (List Token)
  | _, [] => some []
  | 0, _ => none
  | fuel + 1, c :: rest =>
    if isGap c then tokens? fuel rest
    else do
      let (t, rest) ← token? (c :: rest)
      let ts ← tokens? fuel rest
      some (t :: ts)

/-- The number of lists and objects that a value may stand in. -/
def depthLimit : Nat := 200

mutual

/-- A value inside of `depth` lists and objects, and the rest, in at most `fuel` steps. -/
def value? : Nat → Nat → List Token → Option (Json × List Token)
  | 0, _, _ => none
  | fuel + 1, depth, ts =>
    if depthLimit < depth then none
    else
      match ts with
      | .scalar j :: rest => some (j, rest)
      | .openList :: .closeList :: rest => some (.list [], rest)
      | .openList :: rest =>
        (items? fuel (depth + 1) rest).map fun (js, rest) => (.list js, rest)
      | .openObject :: .closeObject :: rest => some (.object [], rest)
      | .openObject :: rest =>
        (members? fuel (depth + 1) rest).map fun (es, rest) =>
          (.object (Entries.putAll [] es), rest)
      | _ => none

/-- The items of a list up to its end, and the rest. -/
def items? : Nat → Nat → List Token → Option (List Json × List Token)
  | 0, _, _ => none
  | fuel + 1, depth, ts => do
    let (j, rest) ← value? fuel depth ts
    match rest with
    | .comma :: rest =>
      let (js, rest) ← items? fuel depth rest
      some (j :: js, rest)
    | .closeList :: rest => some ([j], rest)
    | _ => none

/-- The entries of an object up to its end, and the rest. -/
def members? : Nat → Nat → List Token → Option (List (String × Json) × List Token)
  | 0, _, _ => none
  | fuel + 1, depth, ts =>
    match ts with
    | .scalar (.text k) :: .colon :: rest => do
      let (j, rest) ← value? fuel depth rest
      match rest with
      | .comma :: rest =>
        let (es, rest) ← members? fuel depth rest
        some ((k, j) :: es, rest)
      | .closeObject :: rest => some ([(k, j)], rest)
      | _ => none
    | _ => none

end

/-- The tree of a text. -/
def ofChars? (cs : List Char) : Option Json := do
  let ts ← tokens? cs.length cs
  let (j, rest) ← value? (2 * ts.length + 1) 0 ts
  if rest.isEmpty then some j else none

/-- The tree of a text. -/
def parse? (s : String) : Option Json :=
  ofChars? s.toList

end Json
end Carryover
