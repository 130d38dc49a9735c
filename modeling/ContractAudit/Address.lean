import ContractAudit.Log

/-!
# Contract addresses

An address is `0x` with forty hexadecimal digits. The address in a path may have a line feed after
it; the address in a request body may not.
-/

namespace ContractAudit

/-- Whether a code point is a hexadecimal digit. -/
def isAddressDigit (p : CodePoint) : Bool :=
  let n := p.value
  (0x30 ≤ n && n ≤ 0x39) || (0x41 ≤ n && n ≤ 0x46) || (0x61 ≤ n && n ≤ 0x66)

/-- Whether a text is an address and nothing else. -/
def isAddress (t : Text) : Bool :=
  t.startsWith "0x" && t.length == 42 && (t.drop 2).all isAddressDigit

/-- The text without one line feed at its end. -/
def dropLineFeed (t : Text) : Text :=
  if t.endsWith "\n" then t.dropLast else t

/-- Whether a text is an address for a path. -/
def isPathAddress (t : Text) : Bool :=
  isAddress (dropLineFeed t)

/-- What is said about a text that is no address. -/
def invalidAddressDetail : String := "Invalid contract address format"

/-- What is logged about a text that is no address. -/
def invalidAddressRecord (t : Text) : LogRecord :=
  ⟨.warning, .address, Text.ofString "Invalid address format: " ++ t⟩

/-- The pattern of addresses in messages. -/
def addressPattern : String := "^0x[a-fA-F0-9]\x7b40\x7d$"

/-- The address of a contract that is nowhere. -/
def zeroAddress : Text := Text.ofString "0x0000000000000000000000000000000000000000"

end ContractAudit
