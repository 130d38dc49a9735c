import ContractAudit.Detector.Reentrancy

/-!
# Gas inefficiency

Every `for` loop is checked twice: for a bound that is read from a `length` member, and for more
than one assignment in its body. Both findings can be made for one loop.
-/

namespace ContractAudit

namespace Gas

/-- The member whose use makes a bound dynamic. -/
def boundMember : String := "length"

/-- Whether an operand selects the bound member. -/
def selectsBound (operand : Option Node) : Except Fault Bool :=
  match operand with
  | none => .ok false
  | some n =>
    if n.kind == Kind.member then
      match n.member? with
      | some name => .ok (name == some boundMember)
      | none => .error (.noAttribute "member")
    else .ok false

/-- Whether a condition is the bound member or compares it directly. -/
def hasDynamicBound (condition : Option Node) : Except Fault Bool :=
  match condition with
  | none => .ok false
  | some n =>
    if n.kind == Kind.binary then
      match n.binary? with
      | none => .error (.noAttribute "right")
      | some (_, left, right) =>
        match selectsBound right with
        | .error e => .error e
        | .ok true => .ok true
        | .ok false => selectsBound left
    else selectsBound (some n)

/-- The number of assignments among nodes. -/
def assignments (nodes : List Node) : Nat :=
  nodes.countP fun n => n.kind == Kind.assignment

/-- The finding for a dynamic bound. -/
def unboundedLoop (loc : Location) : Finding :=
  { category := .gasInefficiency
    severity := .low
    title := "Unbounded Loop"
    description := "Loop uses a dynamic bound (like array.length) which can lead to gas "
      ++ "limit issues with large arrays."
    recommendation := "Cache the array length outside the loop or implement pagination "
      ++ "for large data sets."
    location := some loc
    function := none }

/-- The finding for several assignments. -/
def multipleChanges (loc : Location) : Finding :=
  { category := .gasInefficiency
    severity := .low
    title := "Multiple State Changes in Loop"
    description := "Multiple state changes in a loop can be gas inefficient."
    recommendation := "Batch operations or restructure the code to minimize state changes "
      ++ "inside loops."
    location := some loc
    function := none }

/-- What is found at a loop. -/
def check (n : Node) : Except Fault (List Finding) :=
  match n.condition?, n.loopBody? with
  | some condition, some body =>
    match hasDynamicBound condition with
    | .error e => .error e
    | .ok dynamic =>
      .ok ((if dynamic then [unboundedLoop n.loc] else [])
        ++ (if 1 < assignments (Node.walkPart body) then [multipleChanges n.loc] else []))
  | _, _ => .error (.noAttribute "condition")

end Gas

/-- Reports loops that can run out of gas. -/
def gasDetector : Detector where
  name := "gas_inefficiency"
  State := List Finding
  start := .ok []
  handlers := fun s => .ok (s, [(Kind.loop, collect Gas.check)])
  finish := .ok

end ContractAudit
