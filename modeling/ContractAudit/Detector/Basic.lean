import ContractAudit.Ast.Walk
import ContractAudit.Issue

/-!
# Detectors

A detector is made with a state of its own, says which kinds of nodes it handles, changes its state
at these nodes and ends with findings. Each of the four can fail, and a handler that fails may have
changed the state before. `Detector.detect` runs one detector alone.
-/

namespace ContractAudit

/-- What the call of a handler leaves behind. -/
structure Aftermath (σ : Type) where
  /-- The state after the call, also where the call failed. -/
  state : σ
  /-- How the call failed, if it did. -/
  fault : Option Fault

/-- What is done at a node. -/
abbrev Handler (σ : Type) := σ → Node → Aftermath σ

/-- Handlers by the kind of node that they are for, in the order of their registration. -/
abbrev HandlerTable (σ : Type) := List (String × Handler σ)

/-- A detection pass. -/
structure Detector where
  /-- The name of the pass in the log. -/
  name : String
  /-- What the pass remembers. -/
  State : Type
  /-- The state with which the pass is made. -/
  start : Except Fault State
  /-- What the pass does at nodes, and its state after it was asked for that. -/
  handlers : State → Except Fault (State × HandlerTable State)
  /-- The findings after the last node. -/
  finish : State → Except Fault (List Finding)

namespace HandlerTable

variable {σ : Type}

/-- Calls the handlers for a node one after the other and stops at the first fault. -/
def atNode (table : HandlerTable σ) (s : σ) (node : Node) : Aftermath σ :=
  match table with
  | [] => ⟨s, none⟩
  | (kind, handler) :: rest =>
    if kind == node.kind then
      match handler s node with
      | ⟨s', none⟩ => atNode rest s' node
      | ⟨s', some e⟩ => ⟨s', some e⟩
    else atNode rest s node

/-- Shows nodes one after the other and stops at the first fault. -/
def overNodes (table : HandlerTable σ) (s : σ) : List Node → Aftermath σ
  | [] => ⟨s, none⟩
  | node :: rest =>
    match table.atNode s node with
    | ⟨s', none⟩ => overNodes table s' rest
    | ⟨s', some e⟩ => ⟨s', some e⟩

end HandlerTable

namespace Detector

/-- Makes the pass and asks it for its handlers. -/
def register (d : Detector) : Except Fault (d.State × HandlerTable d.State) :=
  match d.start with
  | .error e => .error e
  | .ok s => d.handlers s

/-- Runs a detector alone over a tree. -/
def detect (d : Detector) (root : Node) : Except Fault (List Finding) :=
  match d.register with
  | .error e => .error e
  | .ok (s, table) =>
    match table.overNodes s root.walk with
    | ⟨_, some e⟩ => .error e
    | ⟨s', none⟩ => d.finish s'

end Detector

/-- Whether a function promises not to change state. -/
def Node.FunctionView.isReadOnly (f : Node.FunctionView) : Bool :=
  f.mutability == some "view" || f.mutability == some "pure"

/-- Whether a name is given and is not empty. -/
def hasName (name : Option String) : Bool :=
  match name with
  | some s => s != ""
  | none => false

end ContractAudit
