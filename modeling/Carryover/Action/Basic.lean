import Carryover.Call.Extract
import Carryover.Stored.Decode

/-!
# Business actions

A business action has an identity within its transaction and a context that lives as long as
the action: it is filled from a call, written to, read from, stored as text with the action and
restored. Whether a write has changed the context since the action was made is kept.

The stored text is a JSON object with the context under `actionContext`.

| stored text | restored context |
| --- | --- |
| none, or empty | empty |
| not JSON, not an object | refused |
| no entry, or an entry that is false, zero or empty | empty |
| another entry that is no object | refused |
| an object | its entries |
-/

namespace Carryover

/-- A business action and its context. -/
structure Action where
  xid : Value := .null
  branchId : Value := .null
  name : Value := .null
  delayReport : Value := .null
  /-- Whether a write has changed the context. -/
  updated : Bool := false
  context : Context := []

namespace Action

/-- The text that refuses an unknown part of the identity. -/
def unknownPart (key : String) : Failure :=
  .refused ("BusinessActionContext.__init__() got an unexpected keyword argument " ++
    Text.quoted key)

/-- Sets one part of the identity. -/
def setPart (a : Action) (key : String) (v : Value) : Except Failure Action :=
  match key with
  | "xid" => .ok { a with xid := v }
  | "branch_id" => .ok { a with branchId := v }
  | "action_name" => .ok { a with name := v }
  | "is_delay_report" => .ok { a with delayReport := v }
  | "is_updated" =>
    match v with
    | .bool b => .ok { a with updated := b }
    | _ => .ok a
  | key => .error (unknownPart key)

/-- A new action with an empty context. -/
def make (identity : Entries String Value) : Except Failure Action :=
  identity.foldlM (fun a (key, v) => a.setPart key v) {}

/-- The key of the context in the stored text. -/
def storedKey : String := "actionContext"

/-- The stored text of an action. -/
def toText (Γ : Classes) (a : Action) : Except Failure String :=
  match Γ.strictJson?
      (.dict [(.text storedKey, .dict (a.context.map fun (k, v) => (.text k, v)))]) with
  | some j => .ok j.render
  | none => .error .unwritable

/-- Whether an entry stands for no context. -/
def isFalsy : Json → Bool
  | .null => true
  | .bool b => !b
  | .int i => i == 0
  | .float x => x.isZero
  | .text s => s == ""
  | .list items => items.isEmpty
  | .object entries => entries.isEmpty

/-- The context in a stored text. -/
def contextOfText (text : String) : Except Failure Context :=
  match Json.parse? text with
  | none => .error .malformedJson
  | some (.object entries) =>
    match Entries.get? entries storedKey with
    | none => .ok []
    | some (.object pairs) => .ok (pairs.map fun (k, j) => (k, j.toValue))
    | some j => if isFalsy j then .ok [] else .error (.entryNotObject j.kindName)
  | some j => .error (.notObject j.kindName)

/-- The action with a stored text. -/
def ofText? (text : Option String) (identity : Entries String Value) : Except Failure Action := do
  let a ← make identity
  match text with
  | none => return a
  | some "" => return a
  | some text =>
    let context ← contextOfText text
    return { a with context := context }

/-- The action whose context is that of a call. -/
def ofCall (c : Callable) (positional : List Value) (named identity : Entries String Value) :
    Run Action := do
  let a ← liftExcept (make identity)
  let entries ← extractCall c positional named
  let Γ ← Run.classes
  match (mergeMany Γ entries).run a.context with
  | (.ok _, context) => return { a with context := context }
  | (.error e, _) => throw e

/-- An operation on an action: it may fail, and what was written before it failed stays. -/
abbrev Step (α : Type) := ExceptT Failure (StateM Action) α

/-- Writes to the context; a change is kept in mind when the write comes to its end. -/
def write (w : Write Bool) : Step Bool := do
  let a ← get
  match w.run a.context with
  | (.ok changed, context) =>
    set { a with context := context, updated := a.updated || changed }
    return changed
  | (.error e, context) =>
    set { a with context := context }
    throw e

/-- Writes one value. -/
def add (Γ : Classes) (key : String) (v : Value) : Step Bool :=
  write (mergeOne Γ key v)

/-- Writes values one after the other. -/
def addAll (Γ : Classes) (entries : List (String × Value)) : Step Bool :=
  write (mergeMany Γ entries)

/-- The value under a key, read as a target if there is one; without a value or a target as it
is. -/
def read (a : Action) (key : String) (target : Option Hint) : Run Value := do
  let v := (Entries.get? a.context key).getD .null
  match target with
  | none => return v
  | some target => decode key v target

end Action
end Carryover
