import Carryover.Command.Catalog

/-!
# Paths

A path names an item: a module, a colon, and the names of attributes with points between them,
the first one of the module and each other one of the item before.

| path | failure |
| --- | --- |
| without a colon, or with nothing on one side of it | `badPath` |
| of a module that begins with a point | `refused` |
| of a module that does not exist | `missingModule` |
| of an attribute that does not exist | `missingAttribute` |
-/

namespace Carryover
namespace Command

/-- Splits characters at each `mark`. -/
def splitChars (mark : Char) : List Char → List (List Char)
  | [] => [[]]
  | c :: cs =>
    match splitChars mark cs with
    | [] => [[c]]
    | part :: parts => if c = mark then [] :: part :: parts else (c :: part) :: parts

/-- The parts of a text between points. -/
def pointParts (text : String) : List String :=
  (splitChars '.' text.toList).map String.ofList

/-- A path: the text before the first colon and the one after it. -/
structure Path where
  home : String
  attributes : String
  deriving DecidableEq

/-- The path that a text is. -/
def Path.read (text : String) : Except Failure Path :=
  let home := text.toList.takeWhile (· != ':')
  let attributes := (text.toList.drop home.length).drop 1
  if home.isEmpty || attributes.isEmpty then .error (.badPath text)
  else .ok ⟨String.ofList home, String.ofList attributes⟩

namespace Scope

variable (s : Scope)

/-- Why a module is missing, given the module that it would be a part of. -/
def missingHome (parent : Option String) (path : String) : Failure :=
  let text := "No module named '" ++ path ++ "'"
  match parent with
  | none => .missingModule text
  | some parent =>
    .missingModule
      (if isPackage parent then text else text ++ "; '" ++ parent ++ "' is not a package")

/-- Finds the modules of a path one after the other, each a part of the one before. -/
def findHomes (parent : Option String) : List String → Except Failure Unit
  | [] => .ok ()
  | part :: parts =>
    let path := match parent with
      | some p => p ++ "." ++ part
      | none => part
    if isHome path then findHomes (some path) parts
    else .error (missingHome parent path)

/-- The module of a path. -/
def findHome (path : String) : Except Failure Item :=
  if path.toList.head? = some '.' then
    .error (.refused
      ("the 'package' argument is required to perform a relative import for " ++
        Text.quoted path))
  else
    match findHomes none (pointParts path) with
    | .ok _ => .ok (.home path)
    | .error e => .error e

/-- The item that a path names. -/
def find (text : String) : Except Failure Item := do
  let path ← Path.read text
  let home ← findHome path.home
  (pointParts path.attributes).foldlM s.attributeOf home

end Scope
end Command
end Carryover
