import ContractAudit.Solidity.Assembly
import ContractAudit.Solidity.Expression

/-!
# Statements of Solidity

Readers for statements. The first word of a statement decides what it is, and one that no word
decides declares a variable if it can and is an expression otherwise.
-/

namespace ContractAudit.Solidity

open Reader

/-- The end of a statement. -/
def semicolon : Pieces :=
  token ";"

/-- The declaration of a variable. -/
def variableDeclaration (n : Nat) : Pieces :=
  nodeOf "variable_declaration"
    (typeName n ++ maybe (oneOf dataLocations) ++ fieldOf "name" identifier)

/-- The declaration of several variables at once. -/
def variableTuple (n : Nat) : Pieces := do
  let pieces ← token "(" ++ separatedGaps (variableDeclaration n) ++ token ")"
  if pieces.any fun p => p.tag.type == "variable_declaration" then
    return [node "variable_declaration_tuple" pieces]
  else fail

/-- A statement that declares variables. -/
def declarationStatement (n : Nat) : Pieces :=
  nodeOf "variable_declaration_statement"
    (variableDeclaration n ++ maybe (token "=" ++ expression n) ++ semicolon
      <|> variableTuple n ++ token "=" ++ expression n ++ semicolon)

/-- A statement that is an expression. -/
def expressionStatement (n : Nat) : Pieces :=
  nodeOf "expression_statement" (expression n ++ semicolon)

/-- An expression that is a name with its parts. -/
def nameExpression (n : Nat) : Pieces := do
  let start ← nodeOf "expression" plainIdentifier
  parts n start
where
  parts : Nat → List ParseTree → Pieces
    | 0, name, ts => some (name, ts)
    | n + 1, name, ts => (do
      match ← maybe (token "." ++ fieldOf "property" identifier) with
      | [] => return name
      | member => parts n [wrapExpression "member_expression" (name.map memberObject ++ member)]
      : Pieces) ts

/-- A statement that undoes the transaction. -/
def revertStatement (n : Nat) : Pieces :=
  nodeOf "revert_statement"
    (token "revert" ++ nameExpression n ++ nodeOf "revert_arguments" (callArguments n) ++ semicolon
      <|> token "revert" ++ nodeOf "revert_arguments" (token "(" ++ token ")") ++ semicolon
      <|> token "revert" ++ maybe (expression n) ++ semicolon)

/-- A condition in parentheses. -/
def condition (n : Nat) : Pieces :=
  token "(" ++ fieldOf "condition" (expression n) ++ token ")"

/-- What the head of a loop has between its parentheses. -/
def loopHead (n : Nat) : Pieces :=
  token "(" ++ (semicolon <|> declarationStatement n <|> expressionStatement n)
    ++ fieldOf "condition" (semicolon <|> expressionStatement n) ++ maybe (expression n) ++ token ")"

mutual

/-- A block, perhaps one that does not check its arithmetic. -/
def block : Nat → Pieces
  | 0, _ => none
  | n + 1, ts =>
    (nodeOf "block_statement"
      (maybe (leafOf "unchecked" "unchecked") ++ token "\x7b" ++ many (statement n)
        ++ token "\x7d")) ts

/-- What is done when an attempt fails. -/
def catchClause : Nat → Pieces
  | 0, _ => none
  | n + 1, ts =>
    (nodeOf "catch_clause"
      (token "catch" ++ maybe (maybe identifier ++ parameters n) ++ fieldOf "body" (block n))) ts

/-- A statement. -/
def statement : Nat → Pieces
  | 0, _ => none
  | n + 1, ts => (nodeOf "statement" (do
    match ← peek with
    | "\x7b" | "unchecked" => block n
    | "if" =>
      nodeOf "if_statement"
        (token "if" ++ condition n ++ fieldOf "body" (statement n)
          ++ maybe (token "else" ++ statement n))
    | "for" => nodeOf "for_statement" (token "for" ++ loopHead n ++ fieldOf "body" (statement n))
    | "while" =>
      nodeOf "while_statement" (token "while" ++ condition n ++ fieldOf "body" (statement n))
    | "do" =>
      nodeOf "do_while_statement"
        (token "do" ++ fieldOf "body" (statement n) ++ token "while" ++ condition n ++ semicolon)
    | "return" => nodeOf "return_statement" (token "return" ++ maybe (expression n) ++ semicolon)
    | "break" => nodeOf "break_statement" (token "break" ++ semicolon)
    | "continue" => nodeOf "continue_statement" (token "continue" ++ semicolon)
    | "emit" =>
      nodeOf "emit_statement"
        (token "emit" ++ fieldOf "name" (nameExpression n) ++ callArguments n ++ semicolon)
    | "revert" => revertStatement n
    | "try" =>
      nodeOf "try_statement"
        (token "try" ++ expression n ++ maybe (token "returns" ++ parameters n)
          ++ fieldOf "body" (block n) ++ oneOrMore (catchClause n))
    | "assembly" => assemblyBlockStatement n
    | _ => declarationStatement n <|> expressionStatement n)) ts

end

end ContractAudit.Solidity
