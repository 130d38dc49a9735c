import ContractAudit.Json.Basic
import ContractAudit.Decimal.Shortest
import ContractAudit.Text.Quoted

/-!
# Values in messages

A value put into a message is shown as it is if it is a string. Inside lists and tables strings are
quoted, and the constants are spelt `None`, `True` and `False`.
-/

namespace ContractAudit

namespace Json

mutual

/-- A value inside a list or a table. -/
def displayInner : Json → Text
  | .null => Text.ofString "None"
  | .bool true => Text.ofString "True"
  | .bool false => Text.ofString "False"
  | .int n => Text.ofString (toString n)
  | .float x => Text.ofString (Decimal.render Decimal.shown x)
  | .str t => t.quoted
  | .array items => .scalar '[' :: displayItems items ++ [.scalar ']']
  | .object members => .scalar '\x7b' :: displayMembers members ++ [.scalar '\x7d']

/-- Items with separators. -/
def displayItems : List Json → Text
  | [] => []
  | [v] => displayInner v
  | v :: rest => displayInner v ++ Text.ofString ", " ++ displayItems rest

/-- Members with separators. -/
def displayMembers : List (Text × Json) → Text
  | [] => []
  | [(k, v)] => k.quoted ++ Text.ofString ": " ++ displayInner v
  | (k, v) :: rest =>
    k.quoted ++ Text.ofString ": " ++ displayInner v ++ Text.ofString ", " ++ displayMembers rest

end

/-- A value in a message. -/
def display : Json → Text
  | .str t => t
  | v => displayInner v

end Json

end ContractAudit
