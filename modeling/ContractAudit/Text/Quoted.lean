import ContractAudit.Text.Unprintable
import ContractAudit.Text.Utf8

/-!
# Quoted text

Text inside a shown list or table is quoted: single quotes, or double quotes if the text has single
quotes and no double ones. The quote in use, the backslash, line controls and everything that is
not printable are escaped.
-/

namespace ContractAudit

/-- The quote for a text. -/
def quoteFor (t : Text) : Char :=
  if t.any (·.isChar '\'') && !t.any (·.isChar '"') then '"' else '\''

/-- A code point between quotes. -/
def quotedPoint (quote : Char) (p : CodePoint) : Text :=
  let n := p.value
  if p.isChar quote || p.isChar '\\' then [.scalar '\\', p]
  else if n = 0x09 then Text.ofString "\\t"
  else if n = 0x0A then Text.ofString "\\n"
  else if n = 0x0D then Text.ofString "\\r"
  else if isPrintable n then [p]
  else if n < 0x100 then Text.ofString ("\\x" ++ Utf8.hex 2 n)
  else if n < 0x10000 then Text.ofString ("\\u" ++ Utf8.hex 4 n)
  else Text.ofString ("\\U" ++ Utf8.hex 8 n)

/-- The text in quotes. -/
def Text.quoted (t : Text) : Text :=
  let quote := quoteFor t
  .scalar quote :: t.flatMap (quotedPoint quote) ++ [.scalar quote]

end ContractAudit
