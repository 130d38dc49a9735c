import ContractAudit.Solidity.Reader

/-!
# Types and expressions of Solidity

Readers for types and expressions. Every expression stands in a node of its own, `expression`.

Operators bind by their level, those of one level to the left; assignments bind loosest and to the
right. Calls bind tightest. Members, indices and call options bind looser than operators, so each of
them takes in everything that is pending: `x + m[k]` is `(x + m)[k]`. Only a name with one member,
such as `a.b`, can be an operand, and it is one exactly when what follows leaves nothing pending.

The readers call each other, so each has a bound on how deep it may go as its first argument;
`depthFor` gives a bound that no text of so many tokens reaches.
-/

namespace ContractAudit.Solidity

open Reader

/-- A depth that reading so many tokens does not reach. -/
def depthFor (count : Nat) : Nat :=
  16 * (count + 2)

/-- The sizes in bits of the integer types. -/
def integerSizes : List Nat :=
  (List.range 32).map fun n => 8 * (n + 1)

/-- Whether a text is the name of a fixed-point type with its two sizes. -/
def isSizedFixed (text : String) : Bool :=
  match (text.splitOn "fixed") with
  | [sign, sizes] =>
    (sign == "" || sign == "u") &&
      match sizes.splitOn "x" with
      | [m, n] => m != "" && n != "" && m.all Char.isDigit && n.all Char.isDigit
      | _ => false
  | _ => false

/-- Whether a word names an elementary type. -/
def isElementary (text : String) : Bool :=
  ["bool", "string", "var", "int", "uint", "byte", "bytes", "fixed", "ufixed", "address"].contains text
    || integerSizes.any (fun n => text == "int" ++ toString n || text == "uint" ++ toString n)
    || (List.range 32).any (fun n => text == "bytes" ++ toString (n + 1))
    || isSizedFixed text

/-- The level of a binary operator; operators of higher levels bind tighter. -/
def binaryLevel? (operator : String) : Option Nat :=
  match operator with
  | "||" => some 1
  | "&&" => some 2
  | "==" | "!=" => some 3
  | "<" | "<=" | ">" | ">=" => some 4
  | "|" => some 5
  | "^" => some 6
  | "&" => some 7
  | "<<" | ">>" => some 8
  | "+" | "-" => some 9
  | "*" | "/" | "%" => some 10
  | "**" => some 11
  | _ => none

/-- The assignments that also compute. -/
def augmentedAssignments : List String :=
  ["+=", "-=", "*=", "/=", "%=", "&=", "|=", "^=", "<<=", ">>="]

/-- The units of numbers. -/
def numberUnits : List String :=
  ["wei", "gwei", "szabo", "finney", "ether", "seconds", "minutes", "hours", "days", "weeks", "years"]

/-- The places where data is kept. -/
def dataLocations : List String :=
  ["memory", "storage", "calldata"]

/-- The words for visibility. -/
def visibilities : List String :=
  ["public", "external", "internal", "private"]

/-- The words for mutability. -/
def mutabilities : List String :=
  ["pure", "view", "payable"]

/-- An elementary type. -/
def elementaryType : Pieces := do
  let t ← tokenIf fun t => t.kind == .word && isElementary t.text
  let payable ← if t.text == "address" then maybe (token "payable") else pure []
  return [node "primitive_type" (t.anonymous :: payable)]

/-- An identifier where expressions and types begin. -/
def plainIdentifier : Pieces := do
  let t ← tokenIf fun t =>
    t.kind == .word && !reservedWords.contains t.text && !isElementary t.text
  return [t.leaf "identifier"]

/-- A type that the text itself defines. -/
def definedType : Pieces :=
  nodeOf "user_defined_type" (namePath plainIdentifier)

/-- A word for visibility. -/
def visibility : Pieces :=
  nodeOf "visibility" (oneOf visibilities)

/-- A word for mutability. -/
def mutability : Pieces :=
  nodeOf "state_mutability" (oneOf mutabilities)

/-- Wraps an expression. -/
def wrapExpression (type : String) (children : List ParseTree) : ParseTree :=
  node "expression" [node type children]

/-- Gives a tree the field that it fills. -/
def fill (field : String) : ParseTree → ParseTree
  | .mk tag children => .mk { tag with field := some field } children

/-- What a member is taken of: a plain identifier stands without its wrapper. -/
def memberObject (object : ParseTree) : ParseTree :=
  match object.children with
  | [inner] => if inner.tag.type == "identifier" then inner else object
  | _ => object

/-- A number, perhaps with a unit. -/
def numberLiteral : Pieces := do
  let t ← tokenIf fun t => t.kind == .number
  let unit ← maybe (nodeOf "number_unit" (oneOf numberUnits))
  match unit with
  | [] => return [t.leaf "number_literal"]
  | unit :: _ =>
    return [.mk ⟨"number_literal", t.start, unit.tag.stop, true, false, false, none⟩ [unit]]

/-- An expression without parts that are expressions or types. -/
def simpleExpression : Pieces :=
  numberLiteral
    <|> nodeOf "string_literal" (oneOrMore quotedString)
    <|> nodeOf "boolean_literal" (nodeOf "true" (token "true") <|> nodeOf "false" (token "false"))
    <|> nodeOf "hex_string_literal" (oneOrMore (token "hex" ++ quotes))
    <|> nodeOf "unicode_string_literal" (oneOrMore (token "unicode" ++ quotes))

/-- Pieces with commas between them, each of which may be left out. -/
def separatedGaps (p : Pieces) : Pieces :=
  maybe p ++ many (token "," ++ maybe p)

/-- The operators in front of an operand. -/
def unaryOperators : List String :=
  ["!", "~", "-", "+", "delete"]

/-- The operators that change a variable by one. -/
def updateOperators : List String :=
  ["++", "--"]

/-- An operator with what was read of it, waiting for its last operand. -/
inductive Pending where
  | unary (type : String) (pieces : List ParseTree)
  | binary (level : Nat) (pieces : List ParseTree)
  /-- A choice with its condition and its first branch. -/
  | choice (pieces : List ParseTree)

namespace Pending

/-- How tight the operator binds. -/
def level : Pending → Nat
  | .unary _ _ => 12
  | .binary level _ => level
  | .choice _ => 0

/-- The operator with its last operand. -/
def close (e : ParseTree) : Pending → ParseTree
  | .unary type pieces => wrapExpression type (pieces ++ [e])
  | .binary _ pieces => wrapExpression "binary_expression" (pieces ++ [fill "right" e])
  | .choice pieces => wrapExpression "ternary_expression" (pieces ++ [e])

end Pending

/-- Gives an operand to the waiting operators from a level on. -/
def closeFrom (level : Nat) : List Pending → ParseTree → List Pending × ParseTree
  | p :: outer, e => if level ≤ p.level then closeFrom level outer (p.close e) else (p :: outer, e)
  | [], e => ([], e)

/-- Gives an operand to all waiting operators. -/
def closeAll (pending : List Pending) (e : ParseTree) : ParseTree :=
  (closeFrom 0 pending e).2

/-- Whether an operand that this token follows goes to all waiting operators. -/
def leavesNothing (next : String) (pending : List Pending) : Bool :=
  if next == "(" || updateOperators.contains next then pending.isEmpty
  else
    match binaryLevel? next with
    | some level => pending.all fun p => level ≤ p.level
    | none => true

/-- Whether an expression is a plain identifier. -/
def isName (e : ParseTree) : Bool :=
  match e.children with
  | [inner] => inner.tag.type == "identifier"
  | _ => false

/-- What parentheses with their contents are: around one expression they only group. -/
def parenthesesType (pieces : List ParseTree) : String :=
  match pieces with
  | [_, inner, _] => if inner.tag.named then "parenthesized_expression" else "tuple_expression"
  | _ => "tuple_expression"

mutual

/-- A type. -/
def typeName : Nat → Pieces
  | 0, _ => none
  | n + 1, ts => (do
    let base ← nodeOf "type_name"
      (elementaryType
        <|> token "mapping" ++ token "(" ++ (elementaryType <|> definedType) ++ maybe identifier
          ++ token "=>" ++ typeName n ++ maybe identifier ++ token ")"
        <|> token "function" ++ parameters n ++ many (visibility <|> mutability) ++ maybe (returned n)
        <|> definedType)
    arrayType n base : Pieces) ts

/-- A type with what makes arrays of it. -/
def arrayType : Nat → List ParseTree → Pieces
  | 0, _, _ => none
  | n + 1, base, ts => (do
    match ← maybe (token "[" ++ maybe (expression n) ++ token "]") with
    | [] => return base
    | size => arrayType n [node "type_name" (base ++ size)] : Pieces) ts

/-- The parameters of a function. -/
def parameters : Nat → Pieces
  | 0, _ => none
  | n + 1, ts => (token "(" ++ maybe (separated (parameter n)) ++ token ")") ts

/-- A parameter. -/
def parameter : Nat → Pieces
  | 0, _ => none
  | n + 1, ts =>
    (nodeOf "parameter"
      (typeName n ++ maybe (oneOf dataLocations) ++ maybe (fieldOf "name" identifier))) ts

/-- What a function returns. -/
def returned : Nat → Pieces
  | 0, _ => none
  | n + 1, ts => (nodeOf "return_type_definition" (token "returns" ++ parameters n)) ts

/-- An expression. -/
def expression : Nat → Pieces
  | 0, _ => none
  | n + 1, ts => operand n [] ts

/-- An operand with the operators that wait for it, innermost first, and what follows. -/
def operand : Nat → List Pending → Pieces
  | 0, _, _ => none
  | n + 1, pending, ts => (do
    let next ← peek
    if unaryOperators.contains next then
      let operator ← fieldOf "operator" (token next)
      operand n (.unary "unary_expression" operator :: pending)
    else if updateOperators.contains next then
      let operator ← fieldOf "operator" (token next)
      operand n (.unary "update_expression" operator :: pending)
    else
      let start ← primaryExpression n
      follow n pending (node "expression" start) : Pieces) ts

/-- What follows an expression that operators wait for. -/
def follow : Nat → List Pending → ParseTree → Pieces
  | 0, _, _, _ => none
  | n + 1, pending, e, ts => (do
    let next ← peek
    match next with
    | "(" =>
      let arguments ← callArguments n
      follow n pending (wrapExpression "call_expression" (fill "function" e :: arguments))
    | "++" | "--" =>
      let operator ← fieldOf "operator" (token next)
      follow n pending (wrapExpression "update_expression" (e :: operator))
    | "." =>
      let property ← token "." ++ fieldOf "property" identifier
      let after ← peek
      if isName e && leavesNothing after pending then
        follow n pending (wrapExpression "member_expression" (memberObject e :: property))
      else
        let whole := closeAll pending e
        follow n [] (wrapExpression "member_expression" (memberObject whole :: property))
    | "[" =>
      let first ← token "[" ++ maybe (expression n)
      let second ← maybe (token ":" ++ maybe (expression n))
      let close ← token "]"
      let type := if second.isEmpty then "array_access" else "slice_access"
      follow n [] (wrapExpression type (closeAll pending e :: (first ++ second ++ close)))
    | "\x7b" =>
      match ← maybe (callOptions n) with
      | [] => return [closeAll pending e]
      | options => follow n [] (wrapExpression "struct_expression" (closeAll pending e :: options))
    | "?" =>
      let branch ← token "?" ++ expression n ++ token ":"
      operand n [.choice (closeAll pending e :: branch)]
    | _ =>
      match binaryLevel? next with
      | some level =>
        let operator ← fieldOf "operator" (token next)
        let (outer, left) := closeFrom level pending e
        operand n (.binary level (fill "left" left :: operator) :: outer)
      | none =>
        match ← maybe (oneOf ("=" :: augmentedAssignments)) with
        | [] => return [closeAll pending e]
        | operator =>
          let right ← expression n
          return [wrapExpression
            (if next == "=" then "assignment_expression" else "augmented_assignment_expression")
            (fill "left" (closeAll pending e) :: operator ++ right.map (fill "right"))]
    : Pieces) ts

/-- The options of a call. -/
def callOptions : Nat → Pieces
  | 0, _ => none
  | n + 1, ts =>
    (token "\x7b"
      ++ separated (nodeOf "struct_field_assignment"
        (fieldOf "name" identifier ++ token ":" ++ expression n))
      ++ token "\x7d") ts

/-- The arguments of a call. -/
def callArguments : Nat → Pieces
  | 0, _ => none
  | n + 1, ts =>
    (token "("
      ++ maybe (nodeOf "call_argument"
          (token "\x7b"
            ++ maybe (separated (nodeOf "call_struct_argument"
              (fieldOf "name" identifier ++ token ":" ++ expression n)))
            ++ token "\x7d")
        <|> separated (nodeOf "call_argument" (expression n)))
      ++ token ")") ts

/-- An expression that no operator stands outside of. -/
def primaryExpression : Nat → Pieces
  | 0, _ => none
  | n + 1, ts =>
    (simpleExpression
        <|> nodeOf "new_expression" (token "new" ++ fieldOf "name" (typeName n))
        <|> nodeOf "meta_type_expression" (token "type" ++ token "(" ++ typeName n ++ token ")")
        <|> nodeOf "payable_conversion_expression" (token "payable" ++ callArguments n)
        <|> (do
          let type ← elementaryType
          if (← peek) == "(" then nodeOf "type_cast_expression" (pure type ++ callArguments n)
          else return type)
        <|> (do
          let pieces ← token "(" ++ separatedGaps (expression n) ++ token ")"
          return [node (parenthesesType pieces) pieces])
        <|> nodeOf "inline_array_expression" (token "[" ++ separated (expression n) ++ token "]")
        <|> plainIdentifier) ts

end

end ContractAudit.Solidity
