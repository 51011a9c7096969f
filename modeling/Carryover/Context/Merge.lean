import Carryover.Stored.Drain

/-!
# Writing to a context

A value is written to a context in its stored form; the absent value is not written. A write
changes the context if the key was absent, or if the values before and after are of different
kinds or not equal. The new value is stored in any case. Of several values each is written as the
writes before it have left it: the iterators that they ran through are empty.

| kind | values |
| --- | --- |
| `flag` | flags |
| `text` | texts of every class |
| `other c` | the values of a class `c` |
-/

namespace Carryover

/-- A context: stored values by key. -/
abbrev Context := Entries String Value

/-- The kinds of stored values that are told apart. -/
inductive StorageKind where
  | flag
  | text
  | other (c : ClassName)
  deriving DecidableEq

namespace Value

/-- The kind of a stored value. -/
def storageKind (v : Value) : StorageKind :=
  match v with
  | .bool _ => .flag
  | v => if v.asText?.isSome then .text else .other v.classOf

/-- Whether a value is a NaN that refuses comparison. -/
def isSignalling : Value → Bool
  | .decimal d => d.isSignalling
  | _ => false

/-- Whether a value is of the kind of another one and equal to it. -/
def sameStored (before after : Value) : Except Failure Bool :=
  if before.storageKind ≠ after.storageKind then .ok false
  else if before.isSignalling || after.isSignalling then .error .signalling
  else .ok (before.equals after)

end Value

/-- An operation on a context: it may fail, and what was written before it failed stays. -/
abbrev Write (α : Type) := ExceptT Failure (StateM Context) α

/-- Writes a value to a key, and says whether the context changed. -/
def mergeOne (Γ : Classes) (key : String) (v : Value) : Write Bool :=
  match v with
  | .null => return false
  | v => do
    let stored ← liftExcept (Γ.encode v)
    let before := Entries.get? (← get) key
    modify fun c => Entries.put c key stored
    match before with
    | none => return true
    | some w => return !(← liftExcept (w.sameStored stored))

/-- Writes values as they are one after the other, and says whether one of them changed the
context. -/
def mergeEach (Γ : Classes) : List (String × Value) → Write Bool
  | [] => return false
  | (key, v) :: rest => do
    let first ← mergeOne Γ key v
    let others ← mergeEach Γ rest
    return first || others

/-- Writes values one after the other, each as the writes before it have left it. -/
def mergeMany (Γ : Classes) (entries : List (String × Value)) : Write Bool :=
  mergeEach Γ (Γ.inTurn [] entries)

end Carryover
