import ContractAudit.Solidity.Reader

/-!
# Inline assembly

Readers for the statements of an assembly block. Nothing in such a block is an expression, a call or
an assignment of Solidity, so its nodes have types of their own.
-/

namespace ContractAudit.Solidity

open Reader

/-- The instructions that are called by name. -/
def assemblyInstructions : List String :=
  ["stop", "add", "sub", "mul", "div", "sdiv", "mod", "smod", "exp", "not", "lt", "gt", "slt", "sgt",
   "eq", "iszero", "and", "or", "xor", "byte", "shl", "shr", "sar", "addmod", "mulmod", "signextend",
   "keccak256", "pop", "mload", "mstore", "mstore8", "sload", "sstore", "tload", "tstore", "msize",
   "gas", "address", "balance", "selfbalance", "caller", "callvalue", "calldataload", "calldatasize",
   "calldatacopy", "extcodesize", "extcodecopy", "returndatasize", "returndatacopy", "extcodehash",
   "create", "create2", "call", "callcode", "delegatecall", "staticcall", "return", "revert",
   "selfdestruct", "invalid", "log0", "log1", "log2", "log3", "log4", "chainid", "origin", "gasprice",
   "blockhash", "coinbase", "timestamp", "number", "difficulty", "prevrandao", "gaslimit", "basefee"]

/-- A name of the block. -/
def assemblyName : Pieces :=
  nodeOf "yul_identifier" identifier

/-- A name with its parts. -/
def assemblyPath : Pieces :=
  nodeOf "yul_path" (assemblyName ++ many (token "." ++ assemblyName))

/-- What is called. -/
def assemblyCallee : Pieces :=
  nodeOf "yul_evm_builtin" (oneOf assemblyInstructions) <|> assemblyName

/-- A value that is written out. -/
def assemblyLiteral : Pieces :=
  (do
    let t ← tokenIf fun t => t.kind == .number
    return [t.leaf (if t.text.startsWith "0x" then "yul_hex_number" else "yul_decimal_number")])
  <|> (do
    let t ← tokenIf fun t => t.kind == .quoted
    return [t.leaf "yul_string_literal"])
  <|> nodeOf "yul_boolean" (oneOf ["true", "false"])

mutual

/-- A value. -/
def assemblyValue : Nat → Pieces
  | 0, _ => none
  | n + 1, ts => (assemblyLiteral <|> assemblyCall n <|> assemblyPath) ts

/-- A call. -/
def assemblyCall : Nat → Pieces
  | 0, _ => none
  | n + 1, ts =>
    (nodeOf "yul_function_call"
      (fieldOf "function" assemblyCallee ++ token "(" ++ maybe (separated (assemblyValue n))
        ++ token ")")) ts

end

mutual

/-- A block of assembly statements. -/
def assemblyBlock : Nat → Pieces
  | 0, _ => none
  | n + 1, ts =>
    (nodeOf "yul_block" (token "\x7b" ++ many (assemblyStatement n) ++ token "\x7d")) ts

/-- The cases of a switch. -/
def assemblyCases : Nat → Pieces
  | 0, _ => none
  | n + 1, ts =>
    (many (token "case" ++ assemblyLiteral ++ assemblyBlock n)
      ++ maybe (token "default" ++ assemblyBlock n)) ts

/-- A statement of assembly. -/
def assemblyStatement : Nat → Pieces
  | 0, _ => none
  | n + 1, ts => (do
    match ← peek with
    | "\x7b" => assemblyBlock n
    | "let" =>
      nodeOf "yul_variable_declaration"
        (token "let" ++ separated (fieldOf "left" assemblyName)
          ++ maybe (token ":=" ++ fieldOf "right" (assemblyValue n)))
    | "if" => nodeOf "yul_if_statement" (token "if" ++ assemblyValue n ++ assemblyBlock n)
    | "for" =>
      nodeOf "yul_for_statement"
        (token "for" ++ assemblyBlock n ++ assemblyValue n ++ assemblyBlock n ++ assemblyBlock n)
    | "switch" =>
      nodeOf "yul_switch_statement" (token "switch" ++ assemblyValue n ++ assemblyCases n)
    | "function" =>
      nodeOf "yul_function_definition"
        (token "function" ++ assemblyName ++ token "(" ++ maybe (separated assemblyName) ++ token ")"
          ++ maybe (token "->" ++ separated assemblyName) ++ assemblyBlock n)
    | "leave" => leafOf "yul_leave" "leave"
    | "break" => leafOf "yul_break" "break"
    | "continue" => leafOf "yul_continue" "continue"
    | _ =>
      nodeOf "yul_assignment" (separated assemblyPath ++ token ":=" ++ assemblyValue n)
        <|> assemblyCall n : Pieces) ts

end

/-- A statement with a block of assembly. -/
def assemblyBlockStatement (n : Nat) : Pieces :=
  nodeOf "assembly_statement"
    (token "assembly" ++ maybe (token "\"evmasm\"")
      ++ maybe (nodeOf "assembly_flags" (token "(" ++ separated quotedString ++ token ")"))
      ++ token "\x7b" ++ many (assemblyStatement n) ++ token "\x7d")

end ContractAudit.Solidity
