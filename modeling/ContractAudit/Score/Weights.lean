import ContractAudit.Issue
import ContractAudit.Json.Basic
import ContractAudit.Text.Quoted

/-!
# Weights

What each finding costs. Tables may leave categories out, and those cost nothing. No weight and no
cap is negative; `Weights.make` refuses tables that would be.
-/

namespace ContractAudit

/-- What findings cost. -/
structure Weights where
  /-- Reported only. -/
  severity : List (Severity × Nat)
  category : List (Category × Nat)
  /-- The most that one category can cost. -/
  cap : Option Nat
  deriving DecidableEq, Repr

/-- Why tables are no weights. -/
inductive WeightsError where
  | unknownSeverity (name : Text)
  | unknownCategory (name : Text)
  | negativeCap
  | negativeSeverities (keys : List Severity)
  | negativeCategories (keys : List Category)
  deriving DecidableEq, Repr

namespace Weights

/-- The usual cost of each severity. -/
def defaultSeverity : List (Severity × Nat) :=
  [(.high, 20), (.medium, 15), (.low, 10), (.informational, 5)]

/-- The usual cost of each category. -/
def defaultCategory : List (Category × Nat) :=
  [(.reentrancy, 20), (.accessControl, 15), (.gasInefficiency, 10), (.logicError, 10),
   (.uncheckedReturn, 10), (.arithmeticOverflow, 15), (.missingInputValidation, 10),
   (.unsafeExternalCall, 15)]

/-- The most that one category usually costs. -/
def defaultCap : Nat := 50

/-- The usual weights. -/
def standard : Weights :=
  ⟨defaultSeverity, defaultCategory, some defaultCap⟩

/-- The cost of a category. -/
def weightFor (w : Weights) (c : Category) : Nat :=
  (lookup? c w.category).getD 0

/-- A table in which a name that comes again keeps its place and takes the later value. -/
def table {κ : Type} [BEq κ] (rows : List (κ × Int)) : List (κ × Int) :=
  rows.foldl (fun t row => upsert row.1 row.2 t) []

/-- The keys with a negative value. -/
def negativeKeys {κ : Type} (rows : List (κ × Int)) : List κ :=
  (rows.filter fun row => row.2 < 0).map Prod.fst

/-- The table without signs. -/
def unsigned {κ : Type} (rows : List (κ × Int)) : List (κ × Nat) :=
  rows.map fun row => (row.1, row.2.toNat)

/-- The tables as integers. -/
def signed {κ : Type} (rows : List (κ × Nat)) : List (κ × Int) :=
  rows.map fun row => (row.1, (row.2 : Int))

/-- Weights from tables without repeated keys. The cap is checked first, then the severities, then
the categories. -/
def make (severity : List (Severity × Int)) (category : List (Category × Int)) (cap : Option Int) :
    Except WeightsError Weights :=
  if (cap.map fun c => decide (c < 0)).getD false then .error .negativeCap
  else if !(negativeKeys severity).isEmpty then .error (.negativeSeverities (negativeKeys severity))
  else if !(negativeKeys category).isEmpty then .error (.negativeCategories (negativeKeys category))
  else .ok ⟨unsigned severity, unsigned category, cap.map Int.toNat⟩

/-- A table with names for keys, or the first name that is unknown. -/
def named {κ : Type} [BEq κ] (find : String → Option κ) (unknown : Text → WeightsError) :
    List (Text × Int) → Except WeightsError (List (κ × Int))
  | rows => do
    let keyed ← rows.mapM fun (name, weight) =>
      match (name.toString?).bind find with
      | some key => .ok (key, weight)
      | none => .error (unknown name)
    return table keyed

/-- Weights from tables with names; a table that is left out is the usual one. Names are resolved
before anything else is checked, those of severities first. -/
def ofTables (severity category : Option (List (Text × Int))) (cap : Option Int) :
    Except WeightsError Weights := do
  let severity ← match severity with
    | some rows => named Severity.ofName? .unknownSeverity rows
    | none => .ok (signed defaultSeverity)
  let category ← match category with
    | some rows => named Category.ofName? .unknownCategory rows
    | none => .ok (signed defaultCategory)
  make severity category cap

end Weights

/-- A member of an enumeration as messages show it. -/
def shownMember (enumeration name : String) : String :=
  "<" ++ enumeration ++ "." ++ name.toUpper ++ ": '" ++ name ++ "'>"

/-- Several members as messages show them. -/
def shownMembers (enumeration : String) (names : List String) : String :=
  "[" ++ String.intercalate ", " (names.map (shownMember enumeration)) ++ "]"

/-- The name of the enumeration of categories in messages. -/
def categoryEnumeration : String := "IssueType"

/-- The name of the enumeration of severities in messages. -/
def severityEnumeration : String := "IssueSeverity"

/-- The error in words. -/
def WeightsError.message : WeightsError → Text
  | .unknownSeverity name =>
    Text.quoted name ++ Text.ofString (" is not a valid " ++ severityEnumeration)
  | .unknownCategory name =>
    Text.quoted name ++ Text.ofString (" is not a valid " ++ categoryEnumeration)
  | .negativeCap => "category_cap must be non-negative"
  | .negativeSeverities keys =>
    "severity_weights must be non-negative: "
      ++ shownMembers severityEnumeration (keys.map Severity.name)
  | .negativeCategories keys =>
    "category_weights must be non-negative: "
      ++ shownMembers categoryEnumeration (keys.map Category.name)

end ContractAudit
