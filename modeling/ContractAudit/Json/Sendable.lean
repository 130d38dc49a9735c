import ContractAudit.Json.Writer

/-!
# Values that can be sent

A value can be sent if its numbers are finite and its strings spell Unicode text. It is sent without
blanks, and only what has to be escaped is.
-/

namespace ContractAudit

namespace Json

mutual

/-- Whether a value can be sent. -/
def isSendable : Json → Bool
  | .float x => x.isFinite
  | .str t => t.toString?.isSome
  | .array items => areSendable items
  | .object members => areMembersSendable members
  | _ => true

/-- Whether all items can be sent. -/
def areSendable : List Json → Bool
  | [] => true
  | v :: rest => isSendable v && areSendable rest

/-- Whether all names and values of members can be sent. -/
def areMembersSendable : List (Text × Json) → Bool
  | [] => true
  | (k, v) :: rest => k.toString?.isSome && isSendable v && areMembersSendable rest

end

/-- A code point inside a string that is sent. -/
def sentPoint (p : CodePoint) : Text :=
  if p.value < 0x20 || p.isChar '"' || p.isChar '\\' then (escapePoint p).map .scalar else [p]

/-- A string that is sent. -/
def sentString (t : Text) : Text :=
  .scalar '"' :: t.flatMap sentPoint ++ [.scalar '"']

mutual

/-- The text in which a value is sent. -/
def sentText : Json → Text
  | .str t => sentString t
  | .array items => .scalar '[' :: sentItems items ++ [.scalar ']']
  | .object members => .scalar openBrace :: sentMembers members ++ [.scalar closeBrace]
  | .null => Text.ofString "null"
  | .bool b => Text.ofString (toString b)
  | .int n => Text.ofString (toString n)
  | .float x => Text.ofString (Decimal.render Decimal.jsonLayout x)

/-- Items that are sent, with separators. -/
def sentItems : List Json → Text
  | [] => []
  | [v] => sentText v
  | v :: rest => sentText v ++ .scalar ',' :: sentItems rest

/-- Members that are sent, with separators. -/
def sentMembers : List (Text × Json) → Text
  | [] => []
  | [(k, v)] => sentString k ++ .scalar ':' :: sentText v
  | (k, v) :: rest => sentString k ++ .scalar ':' :: sentText v ++ .scalar ',' :: sentMembers rest

end

end Json

end ContractAudit
