import ContractAudit.Log
import ContractAudit.Score.Weights

/-!
# Trust scores

A score starts at 100. Each category that occurs takes away its weight times its count, at most the
cap, and nothing goes below zero. Severities are counted and take nothing away.
-/

namespace ContractAudit

/-- How often each key occurs, in the order in which keys are first seen. -/
def tally {κ : Type} [BEq κ] (keys : List κ) : List (κ × Nat) :=
  keys.foldl (fun t k => upsert k ((lookup? k t).getD 0 + 1) t) []

/-- What a score is made of. -/
structure Breakdown where
  byCategory : List (Category × Nat)
  bySeverity : List (Severity × Nat)
  /-- What each category takes away, as a number that is not positive. -/
  categoryScores : List (Category × Int)
  deriving DecidableEq, Repr

/-- The score of a contract. -/
structure Score where
  address : Text
  /-- From 0 to 100, higher is better. -/
  overall : Int
  breakdown : Breakdown
  issues : List Issue
  /-- When it was made, in milliseconds. -/
  timestamp : Int
  deriving DecidableEq, Repr

/-- The score of a contract without findings. -/
def maxScore : Int := 100

/-- Below this score a contract is at risk. -/
def riskThreshold : Int := 80

/-- What every score is handed out with. -/
def auditDisclaimer : String :=
  "This score reflects automatically detected vulnerabilities. "
    ++ "Scores below 80 indicate potential security risks. "
    ++ "This automated audit is not a guarantee of security; "
    ++ "please consult security experts for critical dApps."

/-- Whether the score says that the contract is at risk. -/
def Score.atRisk (s : Score) : Bool :=
  s.overall < riskThreshold

/-- What so many findings of a category take away. -/
def Weights.deduction (w : Weights) (c : Category) (count : Nat) : Nat :=
  match w.cap with
  | some cap => min (w.weightFor c * count) cap
  | none => w.weightFor c * count

/-- What is left of a score when these points are taken away. -/
def overallScore (categoryScores : List (Category × Int)) : Int :=
  min maxScore (max 0 (categoryScores.foldl (fun s row => s + row.2) maxScore))

/-- What the issues add up to. -/
def breakdownOf (w : Weights) (issues : List Issue) : Breakdown :=
  let byCategory := tally (issues.map fun i => i.finding.category)
  ⟨byCategory, tally (issues.map fun i => i.finding.severity),
    byCategory.map fun (c, count) => (c, -(w.deduction c count : Int))⟩

/-- The score of a contract with these issues. -/
def scoreOf (w : Weights) (address : Text) (issues : List Issue) (timestamp : Int) : Score :=
  let breakdown := breakdownOf w issues
  ⟨address, overallScore breakdown.categoryScores, breakdown, issues, timestamp⟩

/-- What scoring logs. -/
def scoreRecords (s : Score) : List LogRecord :=
  [⟨.info, .scoring, Text.ofString "Calculating trust score for " ++ s.address
      ++ Text.ofString (" with " ++ toString s.issues.length ++ " issues")⟩,
   ⟨.info, .scoring, Text.ofString "Trust score for " ++ s.address
      ++ Text.ofString (": " ++ toString s.overall)⟩]

end ContractAudit
