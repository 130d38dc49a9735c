import ContractAudit.Solidity.Declaration
import ContractAudit.Text.Utf8

/-!
# The concrete tree of a Solidity text

`concreteTree` reads a whole text. A text that is not Solidity has a tree that says so.
-/

namespace ContractAudit.Solidity

/-- The tree of a text that is not Solidity. -/
def errorTree (size : Nat) : ParseTree :=
  .mk ⟨"source_file", 0, size, true, false, true, none⟩
    [.mk ⟨"ERROR", 0, size, true, false, true, none⟩ []]

/-- What the tokens of a text declare, if they are Solidity. -/
def declarations? (tokens : List Token) : Option (List ParseTree) :=
  match Reader.many (sourceElement (depthFor tokens.length)) tokens with
  | some (elements, []) => some elements
  | _ => none

/-- The concrete tree of a text. -/
def concreteTree (source : Text) : ParseTree :=
  let text := source.toStringLossy
  match (tokens? text).bind declarations? with
  | some elements => .mk ⟨"source_file", 0, text.utf8ByteSize, true, false, false, none⟩ elements
  | none => errorTree text.utf8ByteSize

end ContractAudit.Solidity
