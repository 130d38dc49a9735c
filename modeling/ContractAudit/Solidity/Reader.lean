import ContractAudit.Solidity.Token
import ContractAudit.Tree.Basic

/-!
# Reading tokens

A reader takes tokens from the front of a list and gives the pieces of concrete tree that it made of
them, or fails and leaves the choice to another reader. Readers are put one after the other with
`++`, which joins their pieces.
-/

namespace ContractAudit.Solidity

/-- Reads from the front of a list of tokens. -/
def Reader (α : Type) : Type :=
  List Token → Option (α × List Token)

namespace Reader

/-- Runs a reader. -/
def run {α : Type} (p : Reader α) (ts : List Token) : Option (α × List Token) :=
  p ts

instance : Monad Reader where
  pure a := fun ts => some (a, ts)
  bind p f := fun ts =>
    match p ts with
    | some (a, rest) => f a rest
    | none => none

/-- Fails. -/
def fail {α : Type} : Reader α :=
  fun _ => none

/-- Tries a reader, and another one from the same place if it fails. -/
def orElse {α : Type} (p : Reader α) (q : Unit → Reader α) : Reader α :=
  fun ts =>
    match p ts with
    | some r => some r
    | none => q () ts

instance {α : Type} : OrElse (Reader α) := ⟨orElse⟩

instance {α : Type} : Append (Reader (List α)) where
  append p q := do
    let a ← p
    let b ← q
    return a ++ b

/-- The text of the next token, empty at the end. -/
def peek : Reader String :=
  fun ts => some ((ts.head?.map Token.text).getD "", ts)

/-- Takes the next token if it passes a test. -/
def tokenIf (p : Token → Bool) : Reader Token
  | t :: ts => if p t then some (t, ts) else none
  | [] => none

/-- Reads as often as it can, at most so many times. -/
def upTo {α : Type} (p : Reader (List α)) : Nat → Reader (List α)
  | 0, ts => some ([], ts)
  | n + 1, ts =>
    match p ts with
    | none => some ([], ts)
    | some (a, rest) =>
      match upTo p n rest with
      | none => none
      | some (b, rest) => some (a ++ b, rest)

/-- Reads as often as it can. -/
def many {α : Type} (p : Reader (List α)) : Reader (List α) :=
  fun ts => upTo p ts.length ts

/-- Reads at least once. -/
def oneOrMore {α : Type} (p : Reader (List α)) : Reader (List α) :=
  p ++ many p

/-- Reads if it can. -/
def maybe {α : Type} (p : Reader (List α)) : Reader (List α) :=
  p <|> pure []

end Reader

open Reader

/-- Pieces of a concrete tree, side by side. -/
abbrev Pieces := Reader (List ParseTree)

/-- A node over its children. -/
def node (type : String) (children : List ParseTree) : ParseTree :=
  let start := (children.head?.map fun c => c.tag.start).getD 0
  let stop := (children.getLast?.map fun c => c.tag.stop).getD 0
  .mk ⟨type, start, stop, true, false, false, none⟩ children

/-- Reads pieces and makes a node of them. -/
def nodeOf (type : String) (p : Pieces) : Pieces := do
  let children ← p
  return [node type children]

/-- A token that stands for a named node. -/
def Token.leaf (type : String) (t : Token) : ParseTree :=
  .mk ⟨type, t.start, t.stop, true, false, false, none⟩ []

/-- A token that stands for itself. -/
def Token.anonymous (t : Token) : ParseTree :=
  .mk ⟨t.text, t.start, t.stop, false, false, false, none⟩ []

/-- Reads the token with this text. -/
def token (text : String) : Pieces := do
  let t ← tokenIf fun t => t.text == text
  return [t.anonymous]

/-- Reads one of the tokens with these texts. -/
def oneOf (texts : List String) : Pieces := do
  let t ← tokenIf fun t => texts.contains t.text
  return [t.anonymous]

/-- Reads a word as a named node. -/
def leafOf (type : String) (text : String) : Pieces := do
  let t ← tokenIf fun t => t.text == text
  return [t.leaf type]

/-- Names the field that a piece fills. -/
def fieldOf (field : String) (p : Pieces) : Pieces := do
  let pieces ← p
  return pieces.map fun
    | .mk tag children => .mk { tag with field := some field } children

/-- Reads any word as an identifier. -/
def identifier : Pieces := do
  let t ← tokenIf fun t => t.kind == .word
  return [t.leaf "identifier"]

/-- The words that begin an expression or a type and therefore name nothing there. -/
def reservedWords : List String :=
  ["new", "delete", "type", "payable", "true", "false", "hex", "unicode", "mapping", "function"]

/-- Reads pieces with commas between them, at least one. -/
def separated (p : Pieces) : Pieces :=
  p ++ many (token "," ++ p)

/-- Reads names with points between them. -/
def namePath (first : Pieces) : Pieces :=
  first ++ many (token "." ++ identifier)

/-- The quotes of the next token, a string. -/
def quotes : Pieces := do
  let t ← tokenIf fun t => t.kind == .quoted
  let quote := (t.text.take 1).toString
  return [.mk ⟨quote, t.start, t.start + 1, false, false, false, none⟩ [],
    .mk ⟨quote, t.stop - 1, t.stop, false, false, false, none⟩ []]

/-- Reads a string. -/
def quotedString : Pieces :=
  nodeOf "string" quotes

end ContractAudit.Solidity
