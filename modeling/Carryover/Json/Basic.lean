import Carryover.Entries
import Carryover.Number.Double

/-!
# JSON

The tree of a JSON text. Whole numbers of any size stand apart from doubles, and the entries of
an object keep their order.
-/

namespace Carryover

/-- A JSON tree. -/
inductive Json where
  | null
  | bool (b : Bool)
  | int (i : Int)
  | float (x : Number.Double)
  | text (s : String)
  | list (items : List Json)
  | object (entries : List (String × Json))
  deriving Inhabited

namespace Json

/-- The name of the kind of a tree. -/
def kindName : Json → String
  | .null => "NoneType"
  | .bool _ => "bool"
  | .int _ => "int"
  | .float _ => "float"
  | .text _ => "str"
  | .list _ => "list"
  | .object _ => "dict"

end Json
end Carryover
