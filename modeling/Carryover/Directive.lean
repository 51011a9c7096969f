import Carryover.Text.Blank
import Carryover.Text.Quoted

/-!
# Directives

A directive says how the value of a field or of a parameter comes into a context: under which
key, which element of it, and whether the value itself is stored or the fields of the value.

| part | meaning |
| --- | --- |
| `key` | the key, unless blank |
| `label` | the key if `key` is blank, unless blank itself |
| `index` | the position of the element to take, negative for the whole value |
| `flatten` | take the fields of the value in place of the value |
-/

namespace Carryover

/-- How a field or a parameter comes into a context. -/
structure Directive where
  label : String := ""
  key : String := ""
  index : Int := -1
  flatten : Bool := false
  deriving DecidableEq, Inhabited

namespace Directive

/-- The key that the directive declares, the empty text if it declares none. -/
def keyName (d : Directive) : String :=
  if !Text.blank d.key then d.key
  else if !Text.blank d.label then d.label
  else ""

/-- The key for a field or a parameter with a name of its own. -/
def resolve (d : Directive) (name : String) : String :=
  if d.keyName = "" then name else d.keyName

/-- The directive as it is shown in a type. -/
def render (d : Directive) : String :=
  "ContextParam(value=" ++ Text.quoted d.label ++ ", param_name=" ++ Text.quoted d.key ++
    ", index=" ++ toString d.index ++ ", is_param_in_property=" ++
    (if d.flatten then "True" else "False") ++ ")"

/-- A directive that declares no key leaves the name of the field or parameter for it. -/
theorem resolve_of_blank {d : Directive} (hk : Text.blank d.key = true)
    (hl : Text.blank d.label = true) (name : String) : d.resolve name = name := by
  simp [resolve, keyName, hk, hl]

end Directive
end Carryover
