import ContractAudit.Log
import ContractAudit.Lookup.Reply
import ContractAudit.Submission

/-!
# Verified sources

The block explorer is asked for the verified source of a contract. Its answer has to be a success
with at least one entry, and the source in the first entry must not be blank.
-/

namespace ContractAudit

/-- How deeply the JSON of other services may be nested. The three are read at different depths of
the program, so each may have a limit of its own. -/
structure Nesting where
  /-- The limit for answers of the explorer. -/
  explorer : Nat
  /-- The limit for the code in an answer, if that is JSON again. -/
  submission : Nat
  /-- The limit for answers of the node. -/
  node : Nat

/-- The services that are asked, the key for the explorer, and how deeply answers may be nested. -/
structure Endpoints where
  explorerUrl : Text
  explorerKey : Option Text
  nodeUrl : Text
  nesting : Nesting

/-- A verified source. The explorer may give values of any sort for names and versions. -/
structure ContractSource where
  address : Text
  source : Text
  contractName : Json
  compilerVersion : Json

/-- What the explorer is asked for an address; an empty key is left out. -/
def sourceQuery (e : Endpoints) (address : Text) : Query :=
  let key := e.explorerKey.filter fun k => !k.isEmpty
  .get e.explorerUrl
    ([("module", Text.ofString "contract"), ("action", Text.ofString "getsourcecode"),
      ("address", address)] ++ (key.map fun k => ("apikey", k)).toList)

/-- The entries of an answer, or what the explorer says instead. -/
def entriesOf (address : Text) (members : List (Text × Json)) : Except LookupError (Json × List Json) :=
  let member (name : String) := lookup? (Text.ofString name) members
  let isOne := ((member "status").map (Json.isString "1")).getD false
  let refuse (message : Text) : Except LookupError (Json × List Json) :=
    .error (.failed (Text.ofString "Explorer error for " ++ address ++ Text.ofString ": " ++ message))
  let said : Text := ((member "message").map Json.display).getD "unknown error"
  match member "result" with
  | some (.array (entry :: more)) => if isOne then .ok (entry, more) else refuse said
  | some (.str t) => refuse t
  | _ => refuse said

/-- A value that counts as present, or null. -/
def presentOr : Option Json → Json
  | some v => if v.truthy then v else .null
  | none => .null

/-- The text of the code of an entry: nothing counts as the empty text. -/
def codeOf (members : List (Text × Json)) : Except LookupError Text :=
  match presentOr (lookup? (Text.ofString "SourceCode") members) with
  | .null => .ok []
  | .str t => .ok t
  | v => .error (.noMethod v.sortName "strip")

/-- The code of an entry as one text; JSON may be nested up to `limit`. -/
def flatCode (limit : Nat) (members : List (Text × Json)) : Except LookupError Text :=
  match codeOf members with
  | .error e => .error e
  | .ok code =>
    match Submission.flatten limit code with
    | .error _ => .error .tooDeep
    | .ok t => .ok t

/-- The source in an explorer's answer. -/
def sourceOfAnswer (limit : Nat) (address : Text) (answer : Json) :
    Except LookupError ContractSource := do
  let members ← membersOf answer
  let (entry, _) ← entriesOf address members
  let fields ← membersOf entry
  let source ← flatCode limit fields
  if source.strip.isEmpty then
    .error (.failed (Text.ofString "Contract " ++ address ++ Text.ofString " is not verified"))
  else
    let field (name : String) := presentOr (lookup? (Text.ofString name) fields)
    .ok ⟨address, source, field "ContractName", field "CompilerVersion"⟩

/-- The verified source in the explorer's reply, with what is logged. -/
def verifiedSource (e : Endpoints) (address : Text) (reply : Reply) :
    Except LookupError ContractSource × List LogRecord :=
  match (sourceQuery e address).ask e.nesting.explorer reply with
  | .error .tooDeep => (.error .tooDeep, [])
  | .error (.failed m) =>
    (.error (.failed (Text.ofString "Explorer request failed: " ++ m)),
      [⟨.error, .sources, Text.ofString "Explorer request failed for " ++ address
        ++ Text.ofString ": " ++ m⟩])
  | .ok answer =>
    match sourceOfAnswer e.nesting.submission address answer with
    | .error err => (.error err, [])
    | .ok source =>
      (.ok source,
        [⟨.info, .sources, Text.ofString "Fetched verified source for " ++ address⟩])

end ContractAudit
