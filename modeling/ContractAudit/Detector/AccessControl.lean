import ContractAudit.Detector.Reentrancy

/-!
# Access control

A public or external function that may change state is reported when its body has no guard. Any
`if` counts as a guard, and so does a call of one of the guard functions.
-/

namespace ContractAudit

namespace AccessControl

/-- Functions that guard their caller. -/
def guardCalls : List String := ["require", "onlyOwner", "isAdmin", "onlyRole"]

/-- Whether a visibility lets anyone call. -/
def isExposed (visibility : Option String) : Bool :=
  visibility == some "public" || visibility == some "external"

/-- Whether some node is a guard; nodes after the first guard are not looked at. -/
def hasGuard : List Node → Except Fault Bool
  | [] => .ok false
  | n :: rest =>
    if n.kind == Kind.conditional then .ok true
    else if n.kind == Kind.call then
      match n.call? with
      | none => .error (.noAttribute "callee")
      | some (callee, _) =>
        if guardCalls.any (fun g => callee == some g) then .ok true else hasGuard rest
    else hasGuard rest

/-- The finding for a function. -/
def finding (name visibility : String) (loc : Location) : Finding :=
  { category := .accessControl
    severity := .medium
    title := "Missing Access Control"
    description := "Function '" ++ name ++ "' is " ++ visibility ++ " but lacks access control checks."
    recommendation := "Add access control checks (require statements, modifiers like onlyOwner) "
      ++ "to restrict who can call this function."
    location := some loc
    function := some name }

/-- What is found at a function. -/
def check (n : Node) : Except Fault (List Finding) :=
  match n.function? with
  | none => .error (.noAttribute "is_constructor")
  | some f =>
    if f.isConstructor || f.isReadOnly then .ok []
    else
      match f.body with
      | none => .ok []
      | some body =>
        if !isExposed f.visibility || !hasName f.name then .ok []
        else
          match hasGuard body.walk with
          | .error e => .error e
          | .ok true => .ok []
          | .ok false => .ok [finding (f.name.getD "") (f.visibility.getD "") n.loc]

end AccessControl

/-- Reports functions that anyone may call and that change state without a guard. -/
def accessControlDetector : Detector where
  name := "access_control"
  State := List Finding
  start := .ok []
  handlers := fun s => .ok (s, [(Kind.function, collect AccessControl.check)])
  finish := .ok

end ContractAudit
