import Carryover.Class.Attribute
import Carryover.Failure
import Carryover.Value.Text

/-!
# Making objects

A class makes an object of named arguments. The first class in the order that has a
constructor decides which names there are. A parameter that stands for a position alone takes no
named argument, and what is left goes to a parameter that takes the rest, if there is one.

| constructor | attributes of the object |
| --- | --- |
| declared parameters | one for each parameter |
| of a record | one for each field |
| none | none, and no arguments |
-/

namespace Carryover

/-- A parameter of a constructor. -/
structure InitParameter extends Parameter where
  /-- Whether the object has an attribute of that name. -/
  isStored : Bool

/-- How a class makes objects. -/
structure Constructor where
  /-- The class that has the constructor. -/
  owner : String
  parameters : List InitParameter
  /-- What it raises after its arguments are bound. -/
  fault : Option Fault

namespace Parameter

/-- Whether a parameter takes an argument by its name. -/
def isNamed (p : Parameter) : Bool :=
  p.kind = .either || p.kind = .nameOnly

end Parameter

namespace Classes

/-- The constructor of a class, if it has one. -/
def constructor? (Γ : Classes) (c : ClassName) : Option Constructor :=
  (Γ.declsOf c).findSome? fun d =>
    match d.init with
    | some ps => some ⟨d.name, ps.map fun p => ⟨p, true⟩, d.initFault⟩
    | none =>
      if d.kind == .record then
        let fields := Γ.fields (.declared d.name)
        some ⟨d.name, fields.map fun f => ⟨⟨f.name, .either, none, f.default⟩, !f.initOnly⟩, none⟩
      else d.initFault.map fun f => ⟨d.name, [], some f⟩

/-- Names between quotes as an enumeration in a sentence. -/
def nameList (names : List String) : String :=
  let quoted := names.map Text.quoted
  match quoted with
  | [] => ""
  | [a] => a
  | [a, b] => a ++ " and " ++ b
  | many => joinWith ", " (many.dropLast ++ many.getLast?.toList.map ("and " ++ ·))

end Classes

namespace Constructor

/-- The text that tells of parameters without an argument. -/
def missingText (k : Constructor) (sort : String) (names : List String) : String :=
  k.owner ++ ".__init__() missing " ++ toString names.length ++ " required " ++ sort ++
    " argument" ++ (if names.length = 1 then "" else "s") ++ ": " ++ Classes.nameList names

/-- The names that stand for positions alone. With one of them, `self` is one as well. -/
def positionOnly (k : Constructor) : List String :=
  match (k.parameters.filter (·.kind = .positionOnly)).map (·.name) with
  | [] => []
  | names => "self" :: names

/-- The named arguments that no parameter takes by its name. -/
def leftOver (k : Constructor) (arguments : Entries String Value) : Entries String Value :=
  arguments.filter fun (name, _) => !k.parameters.any fun p => p.isNamed && p.name == name

/-- Whether a parameter takes the named arguments that are left. -/
def takesRest (k : Constructor) : Bool :=
  k.parameters.any (·.kind = .restNames)

/-- Why a named argument is refused, if it is. -/
def refusal? (k : Constructor) (arguments : Entries String Value) (name : String) :
    Option String :=
  if name == "self" && k.positionOnly.isEmpty then
    some (k.owner ++ ".__init__() got multiple values for argument 'self'")
  else if k.takesRest || !Entries.has (k.leftOver arguments) name then none
  else
    match k.positionOnly.filter (Entries.has arguments) with
    | [] => some (k.owner ++ ".__init__() got an unexpected keyword argument " ++ Text.quoted name)
    | names =>
      some (k.owner ++ ".__init__() got some positional-only arguments passed as keyword " ++
        "arguments: '" ++ joinWith ", " names ++ "'")

/-- What a parameter comes to with named arguments: its argument, else its default; what takes the
arguments that are left gets these. -/
def given? (k : Constructor) (arguments : Entries String Value) (p : Parameter) : Option Value :=
  match p.kind with
  | .either | .nameOnly => (Entries.get? arguments p.name).orElse fun _ => p.default
  | .positionOnly => p.default
  | .restPositions => some (.row .tuple [])
  | .restNames => some (.dict ((k.leftOver arguments).map fun (name, v) => (.text name, v)))

/-- The names of the parameters of some kinds that come to nothing. -/
def missing (k : Constructor) (arguments : Entries String Value) (kinds : List ParameterKind) :
    List String :=
  (k.parameters.filter fun p =>
    kinds.contains p.kind && (k.given? arguments p.toParameter).isNone).map (·.name)

end Constructor

namespace Classes

/-- Makes an object of a class of named arguments. -/
def construct (Γ : Classes) (c : ClassName) (arguments : Entries String Value) :
    Except Failure Value :=
  match Γ.constructor? c with
  | none =>
    if arguments.isEmpty then .ok (.object c.short [])
    else .error (.refused (c.short ++ "() takes no arguments"))
  | some k =>
    match arguments.findSome? fun e => k.refusal? arguments e.1 with
    | some text => .error (.refused text)
    | none =>
      match k.missing arguments [.positionOnly, .either], k.missing arguments [.nameOnly] with
      | [], [] =>
        match k.fault with
        | some f => .error (.raised f)
        | none =>
          let stored := k.parameters.filter (·.isStored)
          .ok (.object c.short (stored.filterMap fun p =>
            (k.given? arguments p.toParameter).map (p.name, ·)))
      | [], names => .error (.refused (k.missingText "keyword-only" names))
      | names, _ => .error (.refused (k.missingText "positional" names))

/-- Makes a JSON text of named arguments: of the text of `object`, or empty without one. -/
def constructText (Γ : Classes) (arguments : Entries String Value) : Except Failure Value :=
  let isText (v : Option Value) : Bool := match v with
    | none => true
    | some (.text _) => true
    | _ => false
  let coding := [Entries.get? arguments "encoding", Entries.get? arguments "errors"]
  if !arguments.all fun (name, _) => ["object", "encoding", "errors"].contains name then
    .error (.refused "unexpected keyword argument")
  else if !coding.all isText then .error (.refused "a coding is a text")
  else
    match Entries.get? arguments "object" with
    | none => .ok (.jsonText "")
    | some v =>
      if coding.any Option.isSome then .error (.refused "decoding needs bytes")
      else .ok (.jsonText (Γ.plain v))

/-- Makes an instance of a class of named arguments. -/
def instantiate (Γ : Classes) (c : ClassName) (arguments : Entries String Value) :
    Except Failure Value :=
  match c with
  | .declared _ => Γ.construct c arguments
  | .builtin .jsonText => Γ.constructText arguments
  | _ => .error (.refused (c.short ++ "() takes no arguments"))

end Classes
end Carryover
