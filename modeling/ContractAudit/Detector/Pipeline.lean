import ContractAudit.Detector.AccessControl
import ContractAudit.Detector.Gas
import ContractAudit.Detector.Logic
import ContractAudit.Detector.Reentrancy

/-!
# The pipeline

All detectors share one walk over the tree: their handlers are called in turn at every node. A
detector that fails is switched off and contributes nothing; the others go on. Every failure is
recorded once.
-/

namespace ContractAudit

/-- The failure of a detector in a shared run. -/
inductive FaultRecord where
  /-- The detector could not be started. -/
  | register (name : String)
  /-- The detector failed at a node on a line. -/
  | handle (name : String) (line : Int)
  /-- The detector failed while giving its findings. -/
  | collect (name : String)
  deriving DecidableEq, Repr

/-- The record in words. -/
def FaultRecord.message : FaultRecord → String
  | .register name => "Detector '" ++ name ++ "' failed to register"
  | .handle name line =>
    "Detector '" ++ name ++ "' failed at line " ++ toString line ++ "; its findings are dropped"
  | .collect name => "Detector '" ++ name ++ "' failed while collecting issues"

/-- A detector in a shared run. -/
structure Instance where
  detector : Detector
  state : detector.State
  table : HandlerTable detector.State

namespace Instance

/-- The instance of a detector, if it can be registered. -/
def ofDetector? (d : Detector) : Option Instance :=
  match d.register with
  | .ok (s, table) => some ⟨d, s, table⟩
  | .error _ => none

/-- The instance after the call of its handler at a place of the table, and the fault of the call. -/
def call (i : Instance) (handler : Nat) (node : Node) : Instance × Option Fault :=
  match i.table[handler]? with
  | some (_, h) =>
    let left := h i.state node
    ({ i with state := left.state }, left.fault)
  | none => (i, none)

end Instance

/-- What the detectors of a shared run have in common. A detector is known by its place in the list
of detectors. -/
structure SharedRun where
  /-- The instances by place; a detector that could not be registered has none. -/
  instances : List (Option Instance)
  /-- The places of the detectors that have failed. -/
  failed : List Nat
  /-- The failures in the order in which they happened. -/
  records : List FaultRecord

namespace SharedRun

/-- A run without detectors. -/
def empty : SharedRun :=
  ⟨[], [], []⟩

/-- The run after the detector at a place has failed. -/
def fail (run : SharedRun) (place : Nat) (record : FaultRecord) : SharedRun :=
  { run with failed := place :: run.failed, records := run.records ++ [record] }

/-- Calls a handler of the detector at a place, unless the detector has failed. A fault switches off
this detector only. -/
def guarded (place handler : Nat) (node : Node) (run : SharedRun) : SharedRun :=
  if run.failed.contains place then run
  else
    match run.instances[place]? with
    | some (some i) =>
      let (i', fault) := i.call handler node
      let called := { run with instances := run.instances.set place (some i') }
      match fault with
      | none => called
      | some _ => called.fail place (.handle i.detector.name node.loc.line)
    | _ => run

/-- The findings of the detector at a place, unless the detector has failed. -/
def finishAt (run : SharedRun) (instance? : Option Instance) (place : Nat) :
    List Finding × List FaultRecord :=
  match instance? with
  | none => ([], [])
  | some i =>
    if run.failed.contains place then ([], [])
    else
      match i.detector.finish i.state with
      | .ok found => (found, [])
      | .error _ => ([], [.collect i.detector.name])

/-- The findings of all detectors in their order, and the failures of the whole run. -/
def finish (run : SharedRun) : List Finding × List FaultRecord :=
  let finished := run.instances.zipIdx.map fun (i, place) => run.finishAt i place
  (finished.flatMap Prod.fst, run.records ++ finished.flatMap Prod.snd)

end SharedRun

/-- A shared run with the callbacks that its detectors have registered for the walk. -/
structure Enrolment where
  run : SharedRun
  visitor : Dispatcher SharedRun

namespace Enrolment

/-- No detectors. -/
def empty : Enrolment :=
  ⟨.empty, .empty⟩

/-- Registers a detector at the next place. -/
def enrol (e : Enrolment) (d : Detector) : Enrolment :=
  let place := e.run.instances.length
  let run := { e.run with instances := e.run.instances ++ [Instance.ofDetector? d] }
  match Instance.ofDetector? d with
  | none => ⟨run.fail place (.register d.name), e.visitor⟩
  | some i =>
    ⟨run, i.table.zipIdx.foldl
      (fun visitor row => visitor.on row.1.1 (SharedRun.guarded place row.2)) e.visitor⟩

end Enrolment

/-- Runs detectors over a tree in one walk: the findings in the order of the detectors, and the
failures in the order in which they happened. -/
def runDetectors (root : Node) (ds : List Detector) : List Finding × List FaultRecord :=
  let e := ds.foldl Enrolment.enrol .empty
  (e.visitor.run root e.run).finish

/-- The detectors that run by default. -/
def defaultDetectors : List Detector :=
  [reentrancyDetector, accessControlDetector, gasDetector, logicDetector]

end ContractAudit
