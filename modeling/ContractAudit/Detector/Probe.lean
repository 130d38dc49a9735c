import ContractAudit.Detector.Basic

/-!
# Probes

A probe reports every node of one kind with a running number and can be told to fail at a chosen
point. Probes show how the other detectors fare beside a detector that fails.
-/

namespace ContractAudit

/-- Where a probe fails. -/
inductive ProbeFailure where
  /-- When it is made. -/
  | atStart
  /-- When it is asked for its handlers. -/
  | atRegistration
  /-- After it has reported this many nodes. -/
  | atNode (count : Int)
  /-- When it is asked for its findings. -/
  | atFinish
  /-- Nowhere. -/
  | never
  deriving DecidableEq, Repr

namespace Probe

/-- The report of the `count`-th node. -/
def seen (count : Nat) (n : Node) : Finding :=
  { category := .uncheckedReturn
    severity := .informational
    title := "Seen"
    description := "node " ++ toString count
    recommendation := ""
    location := some n.loc
    function := none }

/-- Reports a node, then fails if it is time. -/
def note (failure : ProbeFailure) : Handler (List Finding) :=
  fun found n =>
    let count := found.length + 1
    ⟨found ++ [seen count n],
      if failure = .atNode count then some (.failure "handler fault") else none⟩

end Probe

/-- A probe for nodes of a kind, or of none. -/
def probeDetector (name : String) (kind : Option String) (failure : ProbeFailure) : Detector where
  name := name
  State := List Finding
  start := if failure = .atStart then .error (.failure "init fault") else .ok []
  handlers := fun found =>
    if failure = .atRegistration then .error .unsupported
    else .ok (found, kind.toList.map fun k => (k, Probe.note failure))
  finish := fun found =>
    if failure = .atFinish then .error (.failure "finish fault") else .ok found

end ContractAudit
