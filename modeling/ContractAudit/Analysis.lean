import ContractAudit.Ast.Build
import ContractAudit.Detector.Pipeline
import ContractAudit.Json.Basic
import ContractAudit.Log

/-!
# Analysis of a source

A source is parsed, its first named contract gives the analysis its name, and the detectors run over
the typed tree. A source that cannot be parsed gives a failed analysis.
-/

namespace ContractAudit

/-- What an analysis led to. -/
inductive Outcome where
  /-- The source could not be parsed. -/
  | failed (message : Text)
  /-- The name of the contract and what was found. -/
  | completed (name : Json) (issues : List Issue)

/-- The analysis of the contract at an address. -/
structure Analysis where
  address : Text
  outcome : Outcome
  /-- When it was made, in milliseconds. -/
  timestamp : Int

/-- The name of a contract without one. -/
def unknownContract : String := "Unknown"

/-- The first contract name that is not empty, or a fault if a contract before it has no name
attribute. -/
def firstContractName : List Node → Except Fault String
  | [] => .ok unknownContract
  | n :: rest =>
    match n.contract? with
    | none => .error (.noAttribute "name")
    | some (name, _) => if hasName name then .ok (name.getD "") else firstContractName rest

/-- The records of failed detectors. -/
def faultRecords (records : List FaultRecord) : List LogRecord :=
  records.map fun r => ⟨.error, .pipeline, r.message⟩

/-- The records that a failed parse leaves. -/
def parseRecords : ParseError → List LogRecord
  | .mistake loc m => [⟨.debug, .parser, (ParseError.mistake loc m).message⟩]
  | _ => []

/-- What the analyzer says about a source before any issue is numbered. -/
inductive Verdict where
  | failed (error : ParseError)
  | completed (name : String) (findings : List Finding)

/-- Analyses a parsed source, or reports the fault of its contract names. -/
def verdictOfTree (address : Text) (root : Node) (ds : List Detector) :
    Except Fault (Verdict × List LogRecord) :=
  match firstContractName root.contracts with
  | .error f => .error f
  | .ok name =>
    let (findings, records) := runDetectors root ds
    .ok (.completed name findings, faultRecords records ++
      [⟨.info, .analyzer, Text.ofString "Analysis completed for " ++ address
        ++ Text.ofString (": " ++ toString findings.length ++ " issues found")⟩])

/-- Analyses the result of parsing. Only faults are not turned into a verdict. -/
def verdictOf (address : Text) (parsed : Except ParseError Node) (ds : List Detector) :
    Except Fault (Verdict × List LogRecord) :=
  match parsed with
  | .ok root => verdictOfTree address root ds
  | .error (.fault f) => .error f
  | .error e =>
    .ok (.failed e, parseRecords e ++
      [⟨.error, .analyzer, Text.ofString "Error analyzing contract " ++ address
        ++ Text.ofString (": " ++ e.message)⟩])

/-- How the message of a failed analysis begins. -/
def failurePrefix : String := "Failed to analyze contract: "

/-- The analysis with its issues numbered from a start. -/
def Verdict.toAnalysis (address : Text) (timestamp : Int) (firstId : Nat) : Verdict → Analysis
  | .failed e => ⟨address, .failed (Text.ofString (failurePrefix ++ e.message)), timestamp⟩
  | .completed name findings =>
    ⟨address, .completed (Json.ofString name) (numberFindings firstId findings), timestamp⟩

end ContractAudit
