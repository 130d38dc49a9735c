import ContractAudit.Address
import ContractAudit.Validation

/-!
# Requests for an audit

A request carries a source and perhaps the address of its contract. The address may be given under
either of two names, of which the first wins.
-/

namespace ContractAudit

/-- A request to audit a source. -/
structure AuditRequest where
  source : Text
  address : Text
  deriving DecidableEq, Repr

/-- A problem of a request and the value that has it. -/
structure RequestProblem where
  problem : Problem
  input : Json

namespace AuditRequest

/-- The name of this form of request. -/
def schema : String := "SourceAuditRequest"

/-- The name of the source. -/
def sourceName : String := "source"

/-- The names of the address, the one that wins first. -/
def addressNames : List String := ["contractAddress", "contract_address"]

/-- The names under which a request is written. -/
def writtenNames : List String := ["source", "contractAddress"]

/-- The greatest length of a source. -/
def sourceLimit : Nat := 500000

/-- A source. -/
def readSource : Json → Except Defect Text
  | .str t =>
    if t.toString?.isNone then .error .notUnicode
    else if t.isEmpty then .error (.tooShort 1)
    else if sourceLimit < t.length then .error (.tooLong sourceLimit)
    else .ok t
  | _ => .error .notString

/-- An address. -/
def readAddress : Json → Except Defect Text
  | .str t =>
    if t.toString?.isNone then .error .notUnicode
    else if isAddress t then .ok t
    else .error (.patternMismatch addressPattern)
  | _ => .error .notString

/-- The first of several names that is given, with its value. -/
def firstGiven? (members : List (Text × Json)) (names : List String) : Option (Text × Json) :=
  names.findSome? fun name =>
    (lookup? (Text.ofString name) members).map fun v => (Text.ofString name, v)

/-- A member of a request under some names, all of which may be missing if there is a default. -/
def readMember (members : List (Text × Json)) (names : List String) (default : Option Text)
    (read : Json → Except Defect Text) : Except RequestProblem Text :=
  match firstGiven? members names with
  | some (name, v) => (read v).mapError fun d => ⟨⟨[.member name], d⟩, v⟩
  | none =>
    match default with
    | some t => .ok t
    | none =>
      .error ⟨⟨[.member (Text.ofString (names.headD ""))], .missing⟩, .object members⟩

/-- The request in the members of an object. -/
def ofMembers (members : List (Text × Json)) : Except (List RequestProblem) AuditRequest :=
  let source := readMember members [sourceName] none readSource
  let address := readMember members addressNames (some zeroAddress) readAddress
  match source, address with
  | .ok s, .ok a => .ok ⟨s, a⟩
  | .error p, .ok _ => .error [p]
  | .ok _, .error q => .error [q]
  | .error p, .error q => .error [p, q]

/-- The request in a value; a value that is no object has the given defect. -/
def ofJson (otherwise : Defect) : Json → Except (List RequestProblem) AuditRequest
  | .object members => ofMembers members
  | v => .error [⟨⟨[], otherwise⟩, v⟩]

end AuditRequest

end ContractAudit
