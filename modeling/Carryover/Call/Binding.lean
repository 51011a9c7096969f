import Carryover.Call.Signature
import Carryover.Failure

/-!
# Binding arguments to parameters

Positional arguments are bound from the left, then the parameters that are left take the named
arguments with their names.

| case | failure |
| --- | --- |
| an argument is left and no parameter takes it by position | `tooMany` |
| a parameter has an argument by position and one by name | `twice` |
| the positional arguments end at a parameter that is also named, but takes none by name | `positionOnly` |
| a parameter has no argument and no default | `missing` |
| a named argument is left | `unexpected` |

A parameter without an argument then gets its default; one that takes what is left gets an
empty row or an empty mapping.
-/

namespace Carryover

/-- Arguments by the names of the parameters they are bound to. -/
abbrev Arguments := Entries String Value

namespace Binding

/-- Binds positional arguments; the parameters that are left take none of them. -/
def positions (named : Entries String Value) :
    List Parameter → List Value → Except BindingFault (Arguments × List Parameter)
  | params, [] =>
    match params with
    | [] => .ok ([], [])
    | p :: rest =>
      match p.kind with
      | .restPositions => .ok ([], rest)
      | kind =>
        if Entries.has named p.name then
          if kind = .positionOnly then .error (.positionOnly p.name) else .ok ([], p :: rest)
        else if kind = .restNames || p.default.isSome then .ok ([], p :: rest)
        else .error (.missing p.name)
  | [], _ :: _ => .error .tooMany
  | p :: rest, v :: vs =>
    match p.kind with
    | .nameOnly | .restNames => .error .tooMany
    | .restPositions => .ok ([(p.name, .row .tuple (v :: vs))], rest)
    | kind =>
      if Entries.has named p.name && kind ≠ .positionOnly then .error (.twice p.name)
      else
        match positions named rest vs with
        | .ok (bound, left) => .ok ((p.name, v) :: bound, left)
        | .error e => .error e

/-- Binds named arguments to the parameters that are left, and gives back those that no
parameter takes by its name. -/
def names : List Parameter → Entries String Value →
    Except BindingFault (Arguments × Entries String Value)
  | [], named => .ok ([], named)
  | p :: rest, named =>
    match p.kind with
    | .restNames | .restPositions => names rest named
    | kind =>
      match Entries.get? named p.name with
      | some v =>
        if kind = .positionOnly then .error (.positionOnly p.name)
        else
          match names rest (Entries.erase named p.name) with
          | .ok (bound, left) => .ok ((p.name, v) :: bound, left)
          | .error e => .error e
      | none => if p.default.isSome then names rest named else .error (.missing p.name)

/-- The parameter that takes the named arguments that are left. -/
def restNames? (params : List Parameter) : Option Parameter :=
  params.find? fun p => p.kind = .restNames

/-- The argument of a parameter, or what it gets without one. -/
def withDefault (bound : Arguments) (p : Parameter) : Option (String × Value) :=
  match Entries.get? bound p.name with
  | some v => some (p.name, v)
  | none =>
    match p.kind, p.default with
    | _, some v => some (p.name, v)
    | .restPositions, none => some (p.name, .row .tuple [])
    | .restNames, none => some (p.name, .dict [])
    | _, none => none

end Binding

/-- Binds arguments to parameters and fills in defaults. -/
def bind (params : List Parameter) (positional : List Value) (named : Entries String Value) :
    Except BindingFault Arguments := do
  let (bound, left) ← Binding.positions named params positional
  let (more, unused) ← Binding.names left named
  let bound := bound ++ more
  let taken ←
    match Binding.restNames? params, unused with
    | _, [] => .ok []
    | some p, unused => .ok [(p.name, Value.dict (unused.map fun (k, v) => (.text k, v)))]
    | none, (name, _) :: _ => .error (.unexpected name)
  return params.filterMap (Binding.withDefault (bound ++ taken))

end Carryover
