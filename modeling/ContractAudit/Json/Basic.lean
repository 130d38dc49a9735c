import ContractAudit.Table
import ContractAudit.Text.CodePoint

/-!
# JSON values

Whole numbers have no size limit and are kept apart from floating-point numbers. The members of an
object keep the order in which their names were first seen.
-/

namespace ContractAudit

/-- A JSON value. -/
inductive Json where
  | null
  | bool (b : Bool)
  | int (n : Int)
  | float (x : Float)
  | str (t : Text)
  | array (items : List Json)
  | object (members : List (Text × Json))
  deriving Inhabited

namespace Json

/-- A string value. -/
def ofString (s : String) : Json :=
  .str (Text.ofString s)

/-- A string value, or null. -/
def ofString? : Option String → Json
  | some s => ofString s
  | none => .null

/-- An object with plain names. -/
def ofFields (fields : List (String × Json)) : Json :=
  .object (fields.map fun (k, v) => (Text.ofString k, v))

/-- The member with a plain name, if the value is an object that has one. -/
def get? (key : String) : Json → Option Json
  | .object members => lookup? (Text.ofString key) members
  | _ => none

/-- Whether the value counts as present: null, false, zero and everything empty do not. -/
def truthy : Json → Bool
  | .null => false
  | .bool b => b
  | .int n => n != 0
  | .float x => x != 0.0
  | .str t => !t.isEmpty
  | .array items => !items.isEmpty
  | .object members => !members.isEmpty

/-- The name of a value's sort. -/
def sortName : Json → String
  | .null => "NoneType"
  | .bool _ => "bool"
  | .int _ => "int"
  | .float _ => "float"
  | .str _ => "str"
  | .array _ => "list"
  | .object _ => "dict"

/-- Whether the value is the given string. -/
def isString (s : String) : Json → Bool
  | .str t => t == Text.ofString s
  | _ => false

end Json

end ContractAudit
