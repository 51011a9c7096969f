import Carryover.Calendar.Basic
import Carryover.Entries
import Carryover.Number.Decimal
import Carryover.Number.Fraction

/-!
# Values

The values that objects hold, that calls pass and that a context carries: scalars, rows of
bytes, sequences, mappings, members of enumerations, objects of declared classes and iterators.

Two kinds of values are told apart by a mark of their own, whatever they hold: the objects that are
numbers of their classes, and the iterators. An iterator is what it has still to give, so it is
another value once it has been run through. Endless iterators, and those that draw from another one,
are left out.
-/

namespace Carryover

open Number Calendar

-- A power is the one of the core library, whatever other powers are in scope.
attribute [local instance (high)] instPowNat

/-- What the members of an enumeration are besides members. -/
inductive Mixin where
  | plain
  | int
  | str
  deriving DecidableEq

/-- The kinds of rows of values. -/
inductive RowForm where
  | list
  | tuple
  | deque
  | userList
  | set
  | frozenset
  deriving DecidableEq

/-- The kinds of rows of bytes. -/
inductive OctetForm where
  | bytes
  | bytearray
  | memoryview
  deriving DecidableEq

/-- The whole numbers from `start` on, `step` apart, before `stop`. -/
structure IntRange where
  start : Int
  stop : Int
  step : Int
  deriving DecidableEq

/-- A universally unique identifier. -/
structure Uuid where
  bits : Fin (2 ^ (128 : Nat))
  deriving DecidableEq

/-- A value. -/
inductive Value where
  | null
  | bool (b : Bool)
  | int (i : Int)
  | float (x : Double)
  | complex (re im : Double)
  | decimal (d : Decimal)
  | fraction (q : Rat)
  | text (s : String)
  | jsonText (s : String)
  | octets (form : OctetForm) (bytes : List UInt8)
  | row (form : RowForm) (items : List Value)
  | dict (entries : List (Value × Value))
  | range (r : IntRange)
  | date (d : Date)
  | datetime (t : DateTime)
  | time (t : Time)
  | duration (d : Duration)
  | uuid (u : Uuid)
  | member (cls : String) (mixin : Mixin) (name : String) (value : Value)
  | object (cls : String) (attrs : List (String × Value))
  /-- An object of a declared class of numbers. -/
  | number (mark : Nat) (cls : String) (attrs : List (String × Value))
  /-- An iterator with what it has still to give. -/
  | iterator (kind : String) (mark : Nat) (items : List Value)
  deriving Inhabited

namespace IntRange

/-- The number of members. -/
def size (r : IntRange) : Nat :=
  if 0 < r.step then ((r.stop - r.start + r.step - 1) / r.step).toNat
  else if r.step < 0 then ((r.start - r.stop - r.step - 1) / (-r.step)).toNat
  else 0

/-- The members in order. -/
def toList (r : IntRange) : List Int :=
  (List.range r.size).map fun (n : Nat) => r.start + n * r.step

end IntRange

namespace Value

/-- The text that a value is, if it is a text: members of a text enumeration are. -/
def asText? : Value → Option String
  | .text s => some s
  | .jsonText s => some s
  | .member _ .str _ (.text s) => some s
  | _ => none

/-- The flags, numbers and members of a number enumeration. -/
def isNumber : Value → Bool
  | .bool _ | .int _ | .float _ | .complex .. | .decimal _ | .fraction _ | .number .. => true
  | .member _ .int _ _ => true
  | _ => false

/-- Texts, flags and numbers are kept in a context as they are. -/
def isPrimitive (v : Value) : Bool :=
  v.asText?.isSome || v.isNumber

end Value
end Carryover
