import ContractAudit.Detector.Basic

/-!
# Reentrancy

A function is reported when its first external call stands on an earlier line than its first
assignment. Lines stand in for the order of execution, and only the first call and the first
assignment of a function count.
-/

namespace ContractAudit

namespace Reentrancy

/-- Members that hand control to another contract. -/
def externalMembers : List String := ["call", "send", "transfer"]

/-- The first external call and the first assignment seen so far. -/
structure Seen where
  call : Option Location := none
  assignment : Option Location := none

/-- Takes one more node of a body into account. -/
def Seen.step (seen : Seen) (n : Node) : Except Fault Seen :=
  if n.kind == Kind.call then
    if seen.call.isNone then
      match n.call? with
      | none => .error (.noAttribute "is_member")
      | some (callee, isMember) =>
        if isMember && externalMembers.any (fun m => callee == some m) then
          .ok { seen with call := some n.loc }
        else .ok seen
    else .ok seen
  else if n.kind == Kind.assignment then
    if seen.assignment.isNone then .ok { seen with assignment := some n.loc } else .ok seen
  else .ok seen

/-- Takes several nodes into account. -/
def Seen.steps (seen : Seen) : List Node → Except Fault Seen
  | [] => .ok seen
  | n :: rest =>
    match seen.step n with
    | .ok seen' => seen'.steps rest
    | .error e => .error e

/-- The finding for a function whose first external call is at a place. -/
def finding (name : String) (loc : Location) : Finding :=
  { category := .reentrancy
    severity := .high
    title := "Reentrancy Vulnerability"
    description := "Function '" ++ name ++ "' contains an external call before a state change, "
      ++ "which can lead to reentrancy attacks."
    recommendation := "Implement the checks-effects-interactions pattern by moving state changes "
      ++ "before external calls, or use a reentrancy guard."
    location := some loc
    function := some name }

/-- The name under which a function is reported. -/
def label (name : Option String) : String :=
  match name with
  | some s => if s == "" then "anonymous" else s
  | none => "anonymous"

/-- What is found at a function. -/
def check (n : Node) : Except Fault (List Finding) :=
  match n.function? with
  | none => .error (.noAttribute "body")
  | some f =>
    match Seen.steps {} (Node.walkPart f.body) with
    | .error e => .error e
    | .ok seen =>
      match seen.call, seen.assignment with
      | some call, some assignment =>
        if call.line < assignment.line then .ok [finding (label f.name) call] else .ok []
      | _, _ => .ok []

end Reentrancy

/-- Makes a handler that adds what a check finds. -/
def collect (check : Node → Except Fault (List Finding)) : Handler (List Finding) :=
  fun found n =>
    match check n with
    | .ok more => ⟨found ++ more, none⟩
    | .error e => ⟨found, some e⟩

/-- Reports external calls before state changes. -/
def reentrancyDetector : Detector where
  name := "reentrancy"
  State := List Finding
  start := .ok []
  handlers := fun s => .ok (s, [(Kind.function, collect Reentrancy.check)])
  finish := .ok

end ContractAudit
