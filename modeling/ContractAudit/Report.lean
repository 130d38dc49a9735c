import ContractAudit.Score.Basic
import ContractAudit.Validation

/-!
# Reports

A report is a score with the name of the contract. A contract name that an outside service chose may
be any value; a report takes only a string or nothing. It takes no score outside of 0 to 100.
-/

namespace ContractAudit

/-- The report on a contract. -/
structure Report where
  score : Score
  contractName : Option Text
  /-- Whether the report was kept from an earlier audit. -/
  cached : Bool
  deriving DecidableEq, Repr

/-- What is wrong with a text that has to be one of Unicode. -/
def unicodeProblem? (name : String) (t : Text) : Option Problem :=
  match t.toString? with
  | some _ => none
  | none => some ⟨[.member (Text.ofString name)], .notUnicode⟩

/-- What is wrong with a contract name. -/
def nameProblem? : Json → Option Problem
  | .null => none
  | .str t => unicodeProblem? "contract_name" t
  | _ => some ⟨[.member (Text.ofString "contract_name")], .notString⟩

/-- What is wrong with an overall score. -/
def scoreProblem? (overall : Int) : Option Problem :=
  if overall < 0 then some ⟨[.member (Text.ofString "score")], .tooSmall 0⟩
  else if maxScore < overall then some ⟨[.member (Text.ofString "score")], .tooLarge maxScore⟩
  else none

/-- The contract name of a report. -/
def nameOf : Json → Option Text
  | .str t => some t
  | _ => none

/-- The report on a score. -/
def reportOf (s : Score) (name : Json) : Except (List Problem) Report :=
  match (unicodeProblem? "contract_address" s.address).toList ++ (nameProblem? name).toList
      ++ (scoreProblem? s.overall).toList with
  | [] => .ok ⟨s, nameOf name, false⟩
  | problems => .error problems

namespace Report

/-- A table with names for keys. -/
def tableJson {κ : Type} (name : κ → String) (rows : List (κ × Int)) : Json :=
  Json.ofFields (rows.map fun (k, v) => (name k, .int v))

/-- A location. -/
def locationJson (l : Location) : Json :=
  Json.ofFields [("line", .int l.line), ("column", .int l.column)]

/-- An issue, given the form of its number. -/
def issueJson (shownId : Nat → Json) (i : Issue) : Json :=
  Json.ofFields
    [("id", shownId i.id), ("type", .ofString i.finding.category.name),
     ("severity", .ofString i.finding.severity.name), ("title", .ofString i.finding.title),
     ("description", .ofString i.finding.description),
     ("recommendation", .ofString i.finding.recommendation),
     ("location", match i.finding.location with
       | some l => locationJson l
       | none => .null),
     ("function", .ofString? i.finding.function)]

/-- The report as a value to send, given the form of the numbers of issues. -/
def toJson (shownId : Nat → Json) (r : Report) : Json :=
  let b := r.score.breakdown
  Json.ofFields
    [("contractAddress", .str r.score.address),
     ("contractName", match r.contractName with
       | some t => .str t
       | none => .null),
     ("score", .int r.score.overall),
     ("issues", .array (r.score.issues.map (issueJson shownId))),
     ("breakdown", Json.ofFields
       [("issuesByType", tableJson Category.name (Weights.signed b.byCategory)),
        ("issuesBySeverity", tableJson Severity.name (Weights.signed b.bySeverity)),
        ("categoryScores", tableJson Category.name b.categoryScores)]),
     ("disclaimer", .ofString auditDisclaimer),
     ("timestamp", .int r.score.timestamp),
     ("cached", .bool r.cached)]

end Report

end ContractAudit
