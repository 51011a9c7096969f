import Carryover.Json.Writer
import Carryover.Text.Utf8
import Carryover.Value.Text

/-!
# The JSON of values

| value | JSON |
| --- | --- |
| absent value, flag, whole number, double, text | the same |
| other numbers, dates, identifiers | a text |
| bytes | the text they encode in UTF-8 |
| list, tuple, deque, set | a list |
| iterator | a list of what it has still to give |
| mapping | an object; each key becomes a text |
| member of an enumeration | its value |
| record | an object of its fields |
| model | an object of its fields under their aliases |
| any other object | an object of its attributes without a leading underscore, or its text |

The last row is open to a choice: without it such objects have no JSON. Nor has a value that
stands inside of more than 254 others, counting an object of the last row as two.
-/

namespace Carryover

open Number Calendar

/-- A complex number without brackets; a real part of zero is left out. -/
def complexJson (re im : Double) : String :=
  let imaginary := Layout.positional.render im ++ "j"
  if re.isZero then imaginary
  else
    let positive := im.isZero || (!im.isNegative && im != .nan)
    Layout.positional.render re ++ (if positive then "+" else "") ++ imaginary

/-- The text that bytes encode in UTF-8. -/
def utf8? (bytes : List UInt8) : Option String :=
  (Text.utf8 bytes).toOption

namespace Classes

/-- The text of an object without a JSON of its own kind. -/
def opaqueText (Γ : Classes) (v : Value) : String :=
  Γ.plain v

mutual

/-- The text of a key of a mapping. -/
def keyText? (Γ : Classes) (plainObjects : Bool) : Value → Option String
  | .null => some "None"
  | .bool b => some (if b then "true" else "false")
  | .int i => some (String.ofList (Json.intChars i))
  | .float x => some (Layout.literal.render x)
  | .complex re im => some (complexJson re im)
  | .decimal d => some d.render
  | .fraction q => some (Fraction.render q)
  | .text s => some s
  | .jsonText s => some s
  | .octets .memoryview _ => none
  | .octets _ bytes => utf8? bytes
  | .row .tuple items => (keyTexts? Γ plainObjects items).map (joinWith ",")
  | .row .. => none
  | .dict _ => none
  | .range r => if plainObjects then some r.render else none
  | .date d => some d.iso
  | .datetime t => some t.json
  | .time t => some (t.isoWith "Z")
  | .duration d => some d.iso
  | .uuid u => some u.render
  | .member _ _ _ value => keyText? Γ plainObjects value
  | .object cls attrs | .number _ cls attrs =>
    if plainObjects && !Γ.hasOpenAttrs (.declared cls) then some (Γ.opaqueText (.object cls attrs))
    else none
  | .iterator .. => none

/-- The texts of the items of a key. -/
def keyTexts? (Γ : Classes) (plainObjects : Bool) : List Value → Option (List String)
  | [] => some []
  | v :: vs => do
    let s ← keyText? Γ plainObjects v
    let rest ← keyTexts? Γ plainObjects vs
    some (s :: rest)

end

/-- The JSON of a value that holds no other values. -/
def scalarJson? (plainObjects : Bool) : Value → Option Json
  | .null => some .null
  | .bool b => some (.bool b)
  | .int i => some (.int i)
  | .float x => some (.float x)
  | .complex re im => some (.text (complexJson re im))
  | .decimal d => some (.text d.render)
  | .fraction q => some (.text (Fraction.render q))
  | .text s => some (.text s)
  | .jsonText s => some (.text s)
  | .octets .memoryview _ => if plainObjects then some (.text "<memory>") else none
  | .octets _ bytes => (utf8? bytes).map .text
  | .range r => if plainObjects then some (.text r.render) else none
  | .date d => some (.text d.iso)
  | .datetime t => some (.text t.json)
  | .time t => some (.text (t.isoWith "Z"))
  | .duration d => some (.text d.iso)
  | .uuid u => some (.text u.render)
  | _ => none

/-- The attribute of an object that a field shows. -/
def fieldValue? (Γ : Classes) (v : Value) (name : String) : Option Value :=
  match Γ.declaredAttribute? v name with
  | .ok w => w
  | .error _ => none

/-- The JSON of a value that may hold values up to `room` deep; `plainObjects` says whether
objects that are neither records nor models have one. -/
def toJson? (Γ : Classes) (plainObjects : Bool) : Nat → Value → Option Json
  | 0, _ => none
  | room + 1, v =>
    match v with
    | .row .userList items =>
      match plainObjects, room with
      | true, inner + 1 =>
        (toJson? Γ plainObjects inner (.row .list items)).map fun j => .object [("data", j)]
      | _, _ => none
    | .row _ items | .iterator _ _ items => (items.mapM (toJson? Γ plainObjects room)).map .list
    | .dict entries => do
      let es ← entries.mapM fun (k, w) => do
        let key ← keyText? Γ plainObjects k
        let j ← toJson? Γ plainObjects room w
        some (key, j)
      some (.object es)
    | .member _ _ _ value => toJson? Γ plainObjects room value
    | .object cls attrs | .number _ cls attrs =>
      if Γ.isModel (.declared cls) then do
        let fields := Γ.storedFields (.declared cls)
        let es ← attrs.filterMapM fun (name, w) =>
          match fields.find? fun f => f.name == name with
          | some f => do
            let j ← toJson? Γ plainObjects room w
            some (some (f.shownName, j))
          | none => some none
        some (.object es)
      else if Γ.isRecord (.declared cls) then do
        let es ← (Γ.storedFields (.declared cls)).mapM fun f => do
          let w ← Γ.fieldValue? v f.name
          let j ← toJson? Γ plainObjects room w
          some (f.name, j)
        some (.object es)
      else if !plainObjects then none
      else
        match room with
        | 0 => none
        | inner + 1 =>
          if Γ.hasOpenAttrs (.declared cls) then do
            let shown := (Γ.openAttrs cls attrs).filter fun (name, _) => !name.startsWith "_"
            let es ← shown.mapM fun (name, w) => do
              let j ← toJson? Γ plainObjects inner w
              some (name, j)
            some (.object es)
          else some (.text (Γ.opaqueText v))
    | v => scalarJson? plainObjects v

/-- The depth of values that have a JSON. -/
def writingRoom : Nat := 255

/-- The JSON of a value, objects of any class included. -/
def json? (Γ : Classes) (v : Value) : Option Json :=
  Γ.toJson? true writingRoom v

/-- The JSON of a value without objects that are neither records nor models. -/
def strictJson? (Γ : Classes) (v : Value) : Option Json :=
  Γ.toJson? false writingRoom v

end Classes
end Carryover
