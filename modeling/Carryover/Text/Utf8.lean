/-!
# Bytes as text

The characters that bytes encode in UTF-8, or where and why the bytes stop doing so.

| first byte | bytes that follow | the one after the first |
| --- | --- | --- |
| up to `7f` | none | |
| `c2` to `df` | one | `80` to `bf` |
| `e0` to `ef` | two | the same, but from `a0` on after `e0` and up to `9f` after `ed` |
| `f0` to `f4` | three | the same, but from `90` on after `f0` and up to `8f` after `f4` |
-/

namespace Carryover
namespace Text

/-- Why bytes are not UTF-8. -/
inductive Utf8Fault where
  | start
  | continuation
  | truncated
  deriving DecidableEq

/-- Where bytes stop being UTF-8: the positions of the first and the last byte of the character
that is not complete, and its first byte. -/
structure Utf8Error where
  first : Nat
  last : Nat
  byte : UInt8
  fault : Utf8Fault
  deriving DecidableEq

/-- A character of which some bytes are read. -/
structure PartialChar where
  /-- The position of its first byte. -/
  first : Nat
  byte : UInt8
  /-- The number of bytes to come. -/
  missing : Nat
  /-- The bounds of the next byte. -/
  lowest : Nat
  highest : Nat
  /-- The number that the bytes read so far stand for. -/
  bits : Nat

/-- The character that a byte above `7f` begins. -/
def PartialChar.begin? (position : Nat) (b : UInt8) : Option PartialChar :=
  let n := b.toNat
  if n < 0xC2 then none
  else if n < 0xE0 then some ⟨position, b, 1, 0x80, 0xBF, n - 0xC0⟩
  else if n < 0xF0 then
    some ⟨position, b, 2, if n = 0xE0 then 0xA0 else 0x80, if n = 0xED then 0x9F else 0xBF,
      n - 0xE0⟩
  else if n < 0xF5 then
    some ⟨position, b, 3, if n = 0xF0 then 0x90 else 0x80, if n = 0xF4 then 0x8F else 0xBF,
      n - 0xF0⟩
  else none

/-- The characters of bytes from a position on, in the middle of a character or between two. -/
def utf8From (position : Nat) :
    Option PartialChar → List UInt8 → Except Utf8Error (List Char)
  | none, [] => .ok []
  | some p, [] => .error ⟨p.first, position - 1, p.byte, .truncated⟩
  | none, b :: rest =>
    if b.toNat < 0x80 then
      match utf8From (position + 1) none rest with
      | .ok cs => .ok (Char.ofNat b.toNat :: cs)
      | .error e => .error e
    else
      match PartialChar.begin? position b with
      | some p => utf8From (position + 1) (some p) rest
      | none => .error ⟨position, position, b, .start⟩
  | some p, b :: rest =>
    let n := b.toNat
    if p.lowest ≤ n && n ≤ p.highest then
      let bits := p.bits * 64 + (n - 0x80)
      if p.missing ≤ 1 then
        match utf8From (position + 1) none rest with
        | .ok cs => .ok (Char.ofNat bits :: cs)
        | .error e => .error e
      else
        utf8From (position + 1)
          (some { p with missing := p.missing - 1, lowest := 0x80, highest := 0xBF, bits := bits })
          rest
    else .error ⟨p.first, position - 1, p.byte, .continuation⟩

/-- The text that bytes encode. -/
def utf8 (bytes : List UInt8) : Except Utf8Error String :=
  match utf8From 0 none bytes with
  | .ok cs => .ok (String.ofList cs)
  | .error e => .error e

end Text
end Carryover
