import ContractAudit.Lookup.Explorer

/-!
# Deployed bytecode

A node of the chain is asked for the code at an address. An answer without code, or with the empty
code `0x`, says that nothing is deployed there.
-/

namespace ContractAudit

/-- What the node is asked for an address. -/
def codeQuery (e : Endpoints) (address : Text) : Query :=
  .post e.nodeUrl (Json.ofFields
    [("jsonrpc", .ofString "2.0"), ("id", .int 1), ("method", .ofString "eth_getCode"),
     ("params", .array [.str address, .ofString "latest"])])

/-- Whether a text contains another one. -/
def Text.includes : Text → Text → Bool
  | [], needle => needle.isEmpty
  | p :: rest, needle => needle.isPrefixOf (p :: rest) || Text.includes rest needle

/-- The error in a node's answer: none, the error, or that the answer cannot be asked for one. -/
def errorMember (answer : Json) : Except LookupError (Option Json) :=
  match answer with
  | .object members => .ok (lookup? (Text.ofString "error") members)
  | .str t => if Text.includes t "error" then .error (.noMember true) else .ok none
  | .array items =>
    if items.any (Json.isString "error") then .error (.noMember false) else .ok none
  | v => .error (.notIterable v.sortName)

/-- What an error of a node says. -/
def errorText (error : Json) : Text :=
  match error.get? "message" with
  | some m => m.display
  | none => error.display

/-- That nothing is deployed at an address. -/
def nothingDeployed (address : Text) : LookupError :=
  .noContract (Text.ofString "No contract found at address " ++ address)

/-- The code in a node's answer. -/
def codeOfAnswer (address : Text) (answer : Json) : Except LookupError Json := do
  match ← errorMember answer with
  | some error =>
    .error (.failed (Text.ofString "RPC error for " ++ address ++ Text.ofString ": "
      ++ errorText error))
  | none =>
    let members ← membersOf answer
    match presentOr (lookup? (Text.ofString "result") members) with
    | .null => .error (nothingDeployed address)
    | code => if code.isString "0x" then .error (nothingDeployed address) else .ok code

/-- The code in the node's reply, with what is logged. -/
def bytecode (e : Endpoints) (address : Text) (reply : Reply) :
    Except LookupError Json × List LogRecord :=
  match (codeQuery e address).ask e.nesting.node reply with
  | .error .tooDeep => (.error .tooDeep, [])
  | .error (.failed m) =>
    (.error (.failed (Text.ofString "RPC request failed: " ++ m)),
      [⟨.error, .sources, Text.ofString "Failed to get bytecode for " ++ address
        ++ Text.ofString ": " ++ m⟩])
  | .ok answer => (codeOfAnswer address answer, [])

end ContractAudit
