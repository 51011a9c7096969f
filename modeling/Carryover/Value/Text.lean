import Carryover.Calendar.Text
import Carryover.Class.Attribute
import Carryover.Number.Layout

/-!
# The texts of values

A value has a text of its own (`Classes.plain`) and a text in which it stands among other
values (`Classes.shown`): texts then stand between quotes, and most kinds are named.

| value | own text | among others |
| --- | --- | --- |
| text | `a` | `'a'` |
| decimal | `1.10` | `Decimal('1.10')` |
| date | `2024-01-02` | `datetime.date(2024, 1, 2)` |
| member | `Col.RED` | `<Col.RED: 1>` |
| record | `Line(sku='A-1', quantity=2)` | the same |
-/

namespace Carryover

open Number Calendar

-- A power is the one of the core library, whatever other powers are in scope.
attribute [local instance (high)] instPowNat

/-- Texts with a separator between them. -/
def joinWith (separator : String) (parts : List String) : String :=
  String.intercalate separator parts

namespace Uuid

/-- The 32 hexadecimal digits in five groups. -/
def render (u : Uuid) : String :=
  let ds := Text.hexDigits 32 u.bits.val
  let group (start size : Nat) := String.ofList ((ds.drop start).take size)
  joinWith "-" [group 0 8, group 8 4, group 12 4, group 16 4, group 20 12]

/-- The value of a hexadecimal digit. -/
def hexValue? (c : Char) : Option Nat :=
  if c.isDigit then some (c.toNat - 48)
  else if 'a' ≤ c && c ≤ 'f' then some (c.toNat - 87)
  else if 'A' ≤ c && c ≤ 'F' then some (c.toNat - 55)
  else none

/-- The identifier with 32 hexadecimal digits. -/
def ofHex? (cs : List Char) : Option Uuid := do
  let ds ← cs.mapM hexValue?
  if ds.length = 32 then
    some ⟨Fin.ofNat (2 ^ (128 : Nat)) (ds.foldl (fun n d => 16 * n + d) 0)⟩
  else none

/-- The identifier with hyphens after 8, 12, 16 and 20 digits. -/
def ofHyphenated? (cs : List Char) : Option Uuid :=
  if [8, 13, 18, 23].all fun i => cs[i]? == some '-' then ofHex? (cs.filter (· != '-'))
  else none

/-- The identifier that a text names: digits with or without hyphens, between braces, or after
`urn:uuid:`. -/
def ofText? (s : String) : Option Uuid :=
  let cs := s.toList
  if cs.length = 32 then ofHex? cs
  else if cs.length = 36 then ofHyphenated? cs
  else if cs.length = 38 && cs.head? == some '\x7b' && cs.getLast? == some '\x7d' then
    ofHyphenated? ((cs.drop 1).take 36)
  else if cs.take 9 = "urn:uuid:".toList && cs.length = 45 then ofHyphenated? (cs.drop 9)
  else none

end Uuid

/-- The text of a range. -/
def IntRange.render (r : IntRange) : String :=
  "range(" ++ toString r.start ++ ", " ++ toString r.stop ++
    (if r.step = 1 then "" else ", " ++ toString r.step) ++ ")"

/-- The text of a complex number; a real part of plain zero is left out. -/
def complexText (re im : Double) : String :=
  let imaginary := Layout.bare.render im
  if re.isZero && !re.isNegative then imaginary ++ "j"
  else
    let signed := if imaginary.startsWith "-" then imaginary else "+" ++ imaginary
    "(" ++ Layout.bare.render re ++ signed ++ "j)"

namespace Calendar

/-- The parts of a time of day, without trailing zeros after the minutes. -/
def Time.parts (t : Time) : List Nat :=
  if t.micro ≠ 0 then [t.hour, t.minute, t.second, t.micro]
  else if t.second ≠ 0 then [t.hour, t.minute, t.second]
  else [t.hour, t.minute]

/-- A duration with its parts named. -/
def Duration.shown (d : Duration) : String :=
  let part (name : String) (n : Int) := if n = 0 then [] else [name ++ "=" ++ toString n]
  let parts := part "days" d.days ++ part "seconds" d.seconds ++
    part "microseconds" d.microseconds
  "datetime.timedelta(" ++ (if parts.isEmpty then "0" else joinWith ", " parts) ++ ")"

/-- An offset from UTC as an argument. -/
def zoneShown : Option Int → List String
  | none => []
  | some 0 => ["tzinfo=datetime.timezone.utc"]
  | some o => ["tzinfo=datetime.timezone(" ++ (Duration.of 0 o 0).shown ++ ")"]

end Calendar

namespace Value

/-- The text, among other values, of a value that holds no values. -/
def scalarShown : Value → String
  | .null => "None"
  | .bool b => if b then "True" else "False"
  | .int i => toString i
  | .float x => Layout.literal.render x
  | .complex re im => complexText re im
  | .decimal d => "Decimal('" ++ d.render ++ "')"
  | .fraction q => "Fraction(" ++ toString q.num ++ ", " ++ toString q.den ++ ")"
  | .text s => Text.quoted s
  | .jsonText s => "JsonText(" ++ Text.quoted s ++ ")"
  | .octets .bytes bs => Text.quotedBytes bs
  | .octets .bytearray bs => "bytearray(" ++ Text.quotedMutableBytes bs ++ ")"
  | .octets .memoryview _ => "<memory>"
  | .range r => r.render
  | .date d =>
    "datetime.date(" ++ joinWith ", " ([d.year, d.month, d.day].map toString) ++ ")"
  | .datetime t =>
    let parts := [t.date.year, t.date.month, t.date.day] ++ t.time.parts
    "datetime.datetime(" ++ joinWith ", " (parts.map toString ++ zoneShown t.time.offset) ++ ")"
  | .time t =>
    "datetime.time(" ++ joinWith ", " (t.parts.map toString ++ zoneShown t.offset) ++ ")"
  | .duration d => d.shown
  | .uuid u => "UUID('" ++ u.render ++ "')"
  | _ => ""

end Value

namespace RowForm

/-- The items of a row between the brackets of its form. -/
def enclose (form : RowForm) (items : List String) : String :=
  let body := joinWith ", " items
  match form with
  | .list | .userList => "[" ++ body ++ "]"
  | .tuple => "(" ++ body ++ (if items.length = 1 then ",)" else ")")
  | .deque => "deque([" ++ body ++ "])"
  | .set => if items.isEmpty then "set()" else "\x7b" ++ body ++ "\x7d"
  | .frozenset =>
    if items.isEmpty then "frozenset()" else "frozenset(\x7b" ++ body ++ "\x7d)"

end RowForm

namespace Classes

/-- The fields of an object with the text of each value; `shown` holds the texts of the
attributes. -/
def fieldTexts (Γ : Classes) (cls : String) (shown : Entries String String) : List String :=
  (Γ.storedFields (.declared cls)).filterMap fun f =>
    match Entries.get? shown f.name with
    | some s => some (f.name ++ "=" ++ s)
    | none => f.default.map fun v => f.name ++ "=" ++ v.scalarShown

/-- The text that a class gives its instances. -/
def givenText? (Γ : Classes) (cls : String) : Option String :=
  (Γ.declsOf (.declared cls)).findSome? (·.shown)

/-- The text of an object among other values; `shown` holds the texts of the attributes. -/
def objectShown (Γ : Classes) (cls : String) (shown : Entries String String) : String :=
  if Γ.isRecord (.declared cls) || Γ.isModel (.declared cls) then
    cls ++ "(" ++ joinWith ", " (Γ.fieldTexts cls shown) ++ ")"
  else "<m." ++ cls ++ " object>"

mutual

/-- The text of a value among other values. -/
def shown (Γ : Classes) : Value → String
  | .row form items => form.enclose (shownItems Γ items)
  | .dict entries => "\x7b" ++ joinWith ", " (shownEntries Γ entries) ++ "\x7d"
  | .member cls _ name value => "<" ++ cls ++ "." ++ name ++ ": " ++ shown Γ value ++ ">"
  | .object cls attrs | .number _ cls attrs => Γ.objectShown cls (shownAttrs Γ attrs)
  | .iterator kind _ _ => "<" ++ kind ++ " object>"
  | v => v.scalarShown

/-- The texts of the items of a row. -/
def shownItems (Γ : Classes) : List Value → List String
  | [] => []
  | v :: vs => shown Γ v :: shownItems Γ vs

/-- The texts of the entries of a mapping. -/
def shownEntries (Γ : Classes) : List (Value × Value) → List String
  | [] => []
  | (k, v) :: es => (shown Γ k ++ ": " ++ shown Γ v) :: shownEntries Γ es

/-- The texts of the attributes of an object. -/
def shownAttrs (Γ : Classes) : List (String × Value) → Entries String String
  | [] => []
  | (name, v) :: attrs => (name, shown Γ v) :: shownAttrs Γ attrs

end

/-- The text of a value. -/
def plain (Γ : Classes) (v : Value) : String :=
  match v with
  | .text s | .jsonText s => s
  | .decimal d => d.render
  | .fraction q => Fraction.render q
  | .date d => d.iso
  | .datetime t => t.spaced
  | .time t => t.iso
  | .duration d => d.render
  | .uuid u => u.render
  | .member cls mixin name value =>
    match mixin with
    | .plain => cls ++ "." ++ name
    | _ => (value.asText?).getD value.scalarShown
  | .object cls attrs | .number _ cls attrs =>
    match Γ.givenText? cls with
    | some s => s
    | none =>
      if Γ.isModel (.declared cls) then joinWith " " (Γ.fieldTexts cls (Γ.shownAttrs attrs))
      else Γ.shown v
  | v => Γ.shown v

end Classes
end Carryover
