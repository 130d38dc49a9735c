import ContractAudit.Solidity.Statement

/-!
# Declarations of Solidity

Readers for contracts and what stands in them, and for what stands outside of contracts.
-/

namespace ContractAudit.Solidity

open Reader

/-- The name of what is declared. -/
def declaredName : Pieces :=
  fieldOf "name" identifier

/-- The body of a function. -/
def functionBody (n : Nat) : Pieces :=
  fieldOf "body" (nodeOf "function_body" (token "\x7b" ++ many (statement n) ++ token "\x7d"))

/-- The modifier of a function, perhaps with arguments. -/
def modifierInvocation (n : Nat) : Pieces := do
  let next ← peek
  if next == "returns" then fail
  else nodeOf "modifier_invocation" (namePath identifier ++ maybe (callArguments n))

/-- That a function may be overridden. -/
def virtualMark : Pieces :=
  leafOf "virtual" "virtual"

/-- What a function overrides. -/
def overrideMark : Pieces :=
  nodeOf "override_specifier"
    (token "override" ++ maybe (token "(" ++ separated definedType ++ token ")"))

/-- What stands between the parameters of a function and its body. -/
def functionMarks (n : Nat) : Pieces :=
  many (visibility <|> mutability <|> virtualMark <|> overrideMark <|> modifierInvocation n)

/-- The end of a function: its body, or a semicolon if it has none. -/
def functionEnd (n : Nat) : Pieces :=
  semicolon <|> functionBody n

/-- A function with a name. -/
def functionDefinition (n : Nat) : Pieces :=
  nodeOf "function_definition"
    (token "function" ++ declaredName ++ parameters n ++ functionMarks n ++ maybe (returned n)
      ++ functionEnd n)

/-- A function that takes what no other function takes. -/
def fallbackDefinition (n : Nat) : Pieces :=
  nodeOf "fallback_receive_definition"
    (oneOf ["receive", "fallback", "function"] ++ parameters n ++ functionMarks n
      ++ maybe (returned n) ++ functionEnd n)

/-- The function that makes a contract. -/
def constructorDefinition (n : Nat) : Pieces :=
  nodeOf "constructor_definition"
    (token "constructor" ++ parameters n
      ++ many (oneOf ["payable", "internal", "public"] <|> modifierInvocation n) ++ functionBody n)

/-- A modifier. -/
def modifierDefinition (n : Nat) : Pieces :=
  nodeOf "modifier_definition"
    (token "modifier" ++ declaredName ++ maybe (parameters n) ++ many (virtualMark <|> overrideMark)
      ++ functionEnd n)

/-- A variable of a contract. -/
def stateVariable (n : Nat) : Pieces :=
  nodeOf "state_variable_declaration"
    (typeName n
      ++ many (visibility <|> token "constant" <|> leafOf "immutable" "immutable"
        <|> token "transient" <|> overrideMark)
      ++ declaredName ++ maybe (token "=" ++ expression n) ++ semicolon)

/-- A constant outside of contracts. -/
def constantVariable (n : Nat) : Pieces :=
  nodeOf "constant_variable_declaration"
    (typeName n ++ token "constant" ++ declaredName ++ token "=" ++ expression n ++ semicolon)

/-- An event. -/
def eventDefinition (n : Nat) : Pieces :=
  nodeOf "event_definition"
    (token "event" ++ declaredName ++ token "("
      ++ maybe (separated (nodeOf "event_parameter"
        (typeName n ++ maybe (token "indexed") ++ maybe declaredName)))
      ++ token ")" ++ maybe (token "anonymous") ++ semicolon)

/-- An error. -/
def errorDeclaration (n : Nat) : Pieces :=
  nodeOf "error_declaration"
    (token "error" ++ declaredName ++ token "("
      ++ maybe (separated (nodeOf "error_parameter" (typeName n ++ maybe declaredName)))
      ++ token ")" ++ semicolon)

/-- A structure. -/
def structDeclaration (n : Nat) : Pieces :=
  nodeOf "struct_declaration"
    (token "struct" ++ declaredName
      ++ fieldOf "body" (nodeOf "struct_body"
        (token "\x7b" ++ many (nodeOf "struct_member" (typeName n ++ declaredName ++ semicolon))
          ++ token "\x7d")))

/-- An enumeration. -/
def enumDeclaration : Pieces :=
  nodeOf "enum_declaration"
    (token "enum" ++ declaredName
      ++ fieldOf "body" (nodeOf "enum_body"
        (token "\x7b" ++ maybe (separated enumValue) ++ token "\x7d")))
where
  enumValue : Pieces := do
    let t ← tokenIf fun t => t.kind == .word
    return [t.leaf "enum_value"]

/-- A type that is another type under a new name. -/
def typeDefinition : Pieces :=
  nodeOf "user_defined_type_definition"
    (token "type" ++ declaredName ++ token "is" ++ elementaryType ++ semicolon)

/-- The operators that a type can define. -/
def definableOperators : List String :=
  ["&", "~", "|", "^", "+", "/", "%", "*", "-", "==", ">", ">=", "<", "<=", "!="]

/-- A directive that attaches functions to a type. -/
def usingDirective (n : Nat) : Pieces :=
  nodeOf "using_directive"
    (token "using"
      ++ (token "\x7b" ++ separated (nodeOf "using_alias" (definedType
          ++ maybe (token "as" ++ nodeOf "user_definable_operator" (oneOf definableOperators))))
            ++ token "\x7d"
        <|> nodeOf "type_alias" identifier
        <|> definedType)
      ++ token "for" ++ (token "*" <|> typeName n) ++ maybe (token "global") ++ semicolon)

/-- What stands in a contract. -/
def contractMember (n : Nat) : Pieces := do
  match ← peek with
  | "function" => functionDefinition n <|> fallbackDefinition n <|> stateVariable n
  | "constructor" => constructorDefinition n
  | "receive" | "fallback" => fallbackDefinition n
  | "modifier" => modifierDefinition n
  | "event" => eventDefinition n
  | "error" => errorDeclaration n
  | "struct" => structDeclaration n
  | "enum" => enumDeclaration
  | "type" => typeDefinition
  | "using" => usingDirective n
  | _ => stateVariable n

/-- The body of a contract. -/
def contractBody (n : Nat) : Pieces :=
  fieldOf "body"
    (nodeOf "contract_body" (token "\x7b" ++ many (contractMember n) ++ token "\x7d"))

/-- What a contract inherits from. -/
def heritage (n : Nat) : Pieces :=
  token "is"
    ++ separated (nodeOf "inheritance_specifier" (definedType ++ maybe (callArguments n)))

/-- An import. -/
def importDirective : Pieces :=
  nodeOf "import_directive"
    (token "import"
      ++ (quotedString ++ maybe (token "as" ++ identifier)
        <|> (token "*" ++ token "as" ++ identifier
            <|> token "\x7b" ++ maybe (separated (identifier ++ maybe (token "as" ++ identifier)))
              ++ token "\x7d"
            <|> identifier ++ maybe (token "as" ++ identifier))
          ++ token "from" ++ quotedString)
      ++ semicolon)

/-- A pragma, which needs something after its word. -/
def pragmaDirective : Pieces := do
  let t ← tokenIf fun t => t.kind == .pragma && (t.text.toList.drop 6).any (!isSpace ·)
  let close ← semicolon
  return [node "pragma_directive" (t.anonymous :: close)]

/-- What stands outside of contracts. -/
def sourceElement (n : Nat) : Pieces := do
  match ← peek with
  | "abstract" | "contract" =>
    nodeOf "contract_declaration"
      (maybe (token "abstract") ++ token "contract" ++ declaredName ++ maybe (heritage n)
        ++ contractBody n)
  | "interface" =>
    nodeOf "interface_declaration"
      (token "interface" ++ declaredName ++ maybe (heritage n) ++ contractBody n)
  | "library" => nodeOf "library_declaration" (token "library" ++ declaredName ++ contractBody n)
  | "function" => functionDefinition n <|> constantVariable n
  | "event" => eventDefinition n
  | "error" => errorDeclaration n
  | "struct" => structDeclaration n
  | "enum" => enumDeclaration
  | "type" => typeDefinition
  | "using" => usingDirective n
  | "import" => importDirective
  | _ => pragmaDirective <|> constantVariable n

end ContractAudit.Solidity
