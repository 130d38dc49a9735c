import ContractAudit.Ast.Basic

/-!
# Findings and issues

A finding is what a detector reports. Its category decides what it costs in a score; its severity
is reported and costs nothing. An issue is a finding with a number of its own.
-/

namespace ContractAudit

/-- What a finding is about. -/
inductive Category where
  | reentrancy
  | accessControl
  | gasInefficiency
  | logicError
  | uncheckedReturn
  | arithmeticOverflow
  | missingInputValidation
  | unsafeExternalCall
  deriving DecidableEq, Repr

namespace Category

/-- All categories in catalog order. -/
def all : List Category :=
  [.reentrancy, .accessControl, .gasInefficiency, .logicError, .uncheckedReturn,
   .arithmeticOverflow, .missingInputValidation, .unsafeExternalCall]

/-- The name of a category. -/
def name : Category → String
  | .reentrancy => "reentrancy"
  | .accessControl => "access_control"
  | .gasInefficiency => "gas_inefficiency"
  | .logicError => "logic_error"
  | .uncheckedReturn => "unchecked_return"
  | .arithmeticOverflow => "arithmetic_overflow"
  | .missingInputValidation => "missing_input_validation"
  | .unsafeExternalCall => "unsafe_external_call"

/-- The category with a name. -/
def ofName? (s : String) : Option Category :=
  all.find? fun c => c.name == s

/-- No category is missing from the catalog. -/
theorem mem_all (c : Category) : c ∈ all := by
  cases c <;> decide

/-- A category is found under its own name. -/
theorem ofName?_name (c : Category) : ofName? c.name = some c := by
  cases c <;> decide

end Category

/-- How bad a finding is. -/
inductive Severity where
  | high
  | medium
  | low
  | informational
  deriving DecidableEq, Repr

namespace Severity

/-- All severities, worst first. -/
def all : List Severity := [.high, .medium, .low, .informational]

/-- The name of a severity. -/
def name : Severity → String
  | .high => "high"
  | .medium => "medium"
  | .low => "low"
  | .informational => "informational"

/-- The severity with a name. -/
def ofName? (s : String) : Option Severity :=
  all.find? fun v => v.name == s

/-- No severity is missing from the catalog. -/
theorem mem_all (v : Severity) : v ∈ all := by
  cases v <;> decide

/-- A severity is found under its own name. -/
theorem ofName?_name (v : Severity) : ofName? v.name = some v := by
  cases v <;> decide

end Severity

/-- What a detector reports. -/
structure Finding where
  category : Category
  severity : Severity
  title : String
  description : String
  recommendation : String
  location : Option Location
  function : Option String
  deriving DecidableEq, Repr

/-- A finding with a number of its own. -/
structure Issue where
  id : Nat
  finding : Finding
  deriving DecidableEq, Repr

/-- Findings numbered from a start. -/
def numberFindings (start : Nat) (findings : List Finding) : List Issue :=
  (findings.zipIdx start).map fun (f, i) => ⟨i, f⟩

end ContractAudit
