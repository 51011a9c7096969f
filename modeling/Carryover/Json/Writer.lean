import Carryover.Json.Basic
import Carryover.Number.Layout
import Carryover.Text.Quoted

/-!
# Writing JSON

The text of a tree has no blanks outside of its texts, apart from the indented form of an
object.

| character | written |
| --- | --- |
| `"`, `\` | after a backslash |
| U+0008, U+0009, U+000A, U+000C, U+000D | `\b`, `\t`, `\n`, `\f`, `\r` |
| any other below U+0020 | `\u` and four hexadecimal digits |
| any other | as it is |
-/

namespace Carryover
namespace Json

/-- One character of a text. -/
def escape (c : Char) : List Char :=
  if c == '"' || c == '\\' then ['\\', c]
  else if c == '\n' then ['\\', 'n']
  else if c == '\r' then ['\\', 'r']
  else if c == '\t' then ['\\', 't']
  else if c.toNat = 0x8 then ['\\', 'b']
  else if c.toNat = 0xC then ['\\', 'f']
  else if c.toNat < 0x20 then '\\' :: 'u' :: Text.hexDigits 4 c.toNat
  else [c]

/-- A text between double quotes. -/
def textChars (s : String) : List Char :=
  '"' :: (s.toList.flatMap escape ++ ['"'])

/-- A whole number. -/
def intChars (i : Int) : List Char :=
  if i < 0 then '-' :: Nat.toDigits 10 i.natAbs else Nat.toDigits 10 i.natAbs

mutual

/-- The characters of a tree. -/
def chars : Json → List Char
  | .null => ['n', 'u', 'l', 'l']
  | .bool true => ['t', 'r', 'u', 'e']
  | .bool false => ['f', 'a', 'l', 's', 'e']
  | .int i => intChars i
  | .float x => Number.Layout.json.chars x
  | .text s => textChars s
  | .list items => '[' :: (itemsChars items ++ [']'])
  | .object entries => '{' :: (entriesChars entries ++ ['}'])

/-- The characters of the items of a list. -/
def itemsChars : List Json → List Char
  | [] => []
  | [j] => chars j
  | j :: js => chars j ++ ',' :: itemsChars js

/-- The characters of the entries of an object. -/
def entriesChars : List (String × Json) → List Char
  | [] => []
  | [(k, j)] => textChars k ++ ':' :: chars j
  | (k, j) :: es => textChars k ++ ':' :: (chars j ++ ',' :: entriesChars es)

end

/-- The text of a tree. -/
def render (j : Json) : String :=
  String.ofList j.chars

/-- The text of an object with each entry on a line of its own. -/
def renderLines (entries : List (String × Json)) : String :=
  let line (e : String × Json) := "  " ++ String.ofList (textChars e.1) ++ ": " ++ e.2.render
  if entries.isEmpty then "\x7b\x7d"
  else "\x7b\n" ++ String.intercalate ",\n" (entries.map line) ++ "\n\x7d"

end Json
end Carryover
