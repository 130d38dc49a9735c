import ContractAudit.Ast.Serialize
import ContractAudit.Detector.Reentrancy
import ContractAudit.Json.Basic

/-!
# Logic errors

Two checks. The conditions of all `if` statements are grouped by the form of their left operand; an
operand that is compared with two different boundary operators is reported once. A function that
others can call, that does not promise to leave the state alone and that never changes it, is
reported too. The findings about operands come first.
-/

namespace ContractAudit

namespace Logic

/-- Operators that compare with a boundary. -/
def boundaryOperators : List String := ["<", "<=", ">", ">="]

/-- Functions that change state. -/
def mutatingCalls : List String := ["push", "pop", "transfer", "send", "mint", "burn"]

/-- Whether a visibility keeps others from calling. -/
def isHidden (visibility : Option String) : Bool :=
  visibility == some "private" || visibility == some "internal"

/-- The operators seen with each left operand, both in the order of first sight. -/
abbrev Comparisons := List (String × List String)

/-- Adds an operator that was seen with an operand. -/
def Comparisons.add (key operator : String) (seen : Comparisons) : Comparisons :=
  let operators := (lookup? key seen).getD []
  upsert key (if operators.contains operator then operators else operators ++ [operator]) seen

/-- What the pass remembers. -/
structure State where
  comparisons : Comparisons := []
  found : List Finding := []

/-- Notes the comparison in the condition of an `if`. -/
def noteCondition (s : State) (n : Node) : Aftermath State :=
  match n.condition? with
  | none => ⟨s, some (.noAttribute "condition")⟩
  | some condition =>
    match condition.bind Node.binary? with
    | some (operator, some left, some _) =>
      ⟨{ s with comparisons := Comparisons.add left.serialize operator s.comparisons }, none⟩
    | _ => ⟨s, none⟩

/-- Whether some node changes state; nodes after the first change are not looked at. -/
def changesState : List Node → Except Fault Bool
  | [] => .ok false
  | n :: rest =>
    if n.kind == Kind.assignment then .ok true
    else if n.kind == Kind.call then
      match n.call? with
      | none => .error (.noAttribute "callee")
      | some (callee, _) =>
        if mutatingCalls.any (fun m => callee == some m) then .ok true else changesState rest
    else changesState rest

/-- The finding for a function. -/
def missingUpdates (name : String) (loc : Location) : Finding :=
  { category := .logicError
    severity := .low
    title := "Function Might Miss State Updates"
    description := "Function '" ++ name ++ "' doesn't appear to update state but isn't marked "
      ++ "as view or pure."
    recommendation := "Either add missing state updates or mark the function as view/pure if it "
      ++ "only reads state."
    location := some loc
    function := some name }

/-- The finding for an operand that was compared with these operators. -/
def inconsistentOperators (operators : List String) : Finding :=
  { category := .logicError
    severity := .medium
    title := "Inconsistent Comparison Operators"
    description := "Variable is compared with inconsistent boundary operators: "
      ++ ", ".intercalate operators ++ ". This may indicate a logic error."
    recommendation := "Review the conditions to ensure consistent boundary checks."
    location := none
    function := none }

/-- What is found at a function. -/
def check (n : Node) : Except Fault (List Finding) :=
  match n.function? with
  | none => .error (.noAttribute "is_constructor")
  | some f =>
    if f.isConstructor || f.isReadOnly then .ok []
    else if !hasName f.name || isHidden f.visibility then .ok []
    else
      match changesState (Node.walkPart f.body) with
      | .error e => .error e
      | .ok true => .ok []
      | .ok false => .ok [missingUpdates (f.name.getD "") n.loc]

/-- Adds what is found at a function. -/
def noteFunction (s : State) (n : Node) : Aftermath State :=
  let noted := collect check s.found n
  ⟨{ s with found := noted.state }, noted.fault⟩

/-- The boundary operators among operators. -/
def boundary (operators : List String) : List String :=
  operators.filter boundaryOperators.contains

/-- The findings about operands. -/
def comparisonFindings (seen : Comparisons) : List Finding :=
  seen.filterMap fun (_, operators) =>
    if 1 < (boundary operators).length then some (inconsistentOperators (boundary operators))
    else none

end Logic

/-- Reports inconsistent comparisons and functions without effect. -/
def logicDetector : Detector where
  name := "logic_error"
  State := Logic.State
  start := .ok {}
  handlers := fun s =>
    .ok (s, [(Kind.conditional, Logic.noteCondition), (Kind.function, Logic.noteFunction)])
  finish := fun s => .ok (Logic.comparisonFindings s.comparisons ++ s.found)

end ContractAudit
