/-!
# Blank characters

Two classes of blank characters, and trimming by either of them.

| class | members |
| --- | --- |
| `Text.isSpace` | the characters of the White_Space property |
| `Text.isBlank` | these and the four information separators U+001C to U+001F |

U+200B, U+FEFF, U+180E, U+2060 and U+0000 are in neither.
-/

namespace Carryover
namespace Text

/-- The characters of the White_Space property. -/
def isSpace (c : Char) : Bool :=
  let n := c.toNat
  (0x9 ≤ n && n ≤ 0xD) || n == 0x20 || n == 0x85 || n == 0xA0 || n == 0x1680 ||
    (0x2000 ≤ n && n ≤ 0x200A) || n == 0x2028 || n == 0x2029 || n == 0x202F ||
    n == 0x205F || n == 0x3000

/-- White space and the information separators. -/
def isBlank (c : Char) : Bool :=
  isSpace c || (0x1C ≤ c.toNat && c.toNat ≤ 0x1F)

/-- Drops the characters of a class from both ends. -/
def trimBy (p : Char → Bool) (cs : List Char) : List Char :=
  ((cs.dropWhile p).reverse.dropWhile p).reverse

/-- Drops blank characters from both ends. -/
def trim (s : String) : String :=
  String.ofList (trimBy isBlank s.toList)

/-- Whether a text holds nothing but blank characters. -/
def blank (s : String) : Bool :=
  s.toList.all isBlank

/-- The empty text is blank. -/
theorem blank_empty : blank "" = true := by
  simp [blank]

end Text
end Carryover
