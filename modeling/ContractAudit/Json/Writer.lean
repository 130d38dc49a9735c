import ContractAudit.Json.Basic
import ContractAudit.Decimal.Shortest
import ContractAudit.Text.Utf8

/-!
# Writing JSON

Values are written on one line with `", "` between items and `": "` after names, in ASCII: quotes,
backslashes and controls have escapes, and every code point beyond ASCII is written as one or two
`\u` escapes.
-/

namespace ContractAudit

namespace Json

/-- An escape of four hexadecimal digits. -/
def unicodeEscape (n : Nat) : List Char :=
  '\\' :: 'u' :: (Utf8.hex 4 n).toList

/-- A code point inside a JSON string. -/
def escapePoint (p : CodePoint) : List Char :=
  let n := p.value
  if n = 0x22 then ['\\', '"']
  else if n = 0x5C then ['\\', '\\']
  else if n = 0x0A then ['\\', 'n']
  else if n = 0x0D then ['\\', 'r']
  else if n = 0x09 then ['\\', 't']
  else if n = 0x0C then ['\\', 'f']
  else if n = 0x08 then ['\\', 'b']
  else if 0x20 ≤ n ∧ n ≤ 0x7E then [Char.ofNat n]
  else if n < 0x10000 then unicodeEscape n
  else
    unicodeEscape (0xD800 + (n - 0x10000) / 0x400) ++ unicodeEscape (0xDC00 + (n - 0x10000) % 0x400)

/-- A JSON string. -/
def writeString (t : Text) : List Char :=
  '"' :: t.flatMap escapePoint ++ ['"']

/-- The opening brace of an object. -/
def openBrace : Char := '\x7b'

/-- The closing brace of an object. -/
def closeBrace : Char := '\x7d'

mutual

/-- A value as characters. -/
def writeChars : Json → List Char
  | .null => "null".toList
  | .bool true => "true".toList
  | .bool false => "false".toList
  | .int n => (toString n).toList
  | .float x => (Decimal.render Decimal.jsonLayout x).toList
  | .str t => writeString t
  | .array items => '[' :: writeItems items ++ [']']
  | .object members => openBrace :: writeMembers members ++ [closeBrace]

/-- Items with separators. -/
def writeItems : List Json → List Char
  | [] => []
  | [v] => writeChars v
  | v :: rest => writeChars v ++ ',' :: ' ' :: writeItems rest

/-- Members with separators. -/
def writeMembers : List (Text × Json) → List Char
  | [] => []
  | [(k, v)] => writeString k ++ ':' :: ' ' :: writeChars v
  | (k, v) :: rest => writeString k ++ ':' :: ' ' :: writeChars v ++ ',' :: ' ' :: writeMembers rest

end

/-- A value on one line. -/
def write (v : Json) : String :=
  String.ofList (writeChars v)

end Json

end ContractAudit
