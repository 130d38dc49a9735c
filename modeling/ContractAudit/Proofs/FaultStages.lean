import ContractAudit.Proofs.Isolation
import ContractAudit.Proofs.Traversal
import Mathlib.Data.List.Perm.Basic

/-!
# Stages of faults

A detector that fails does so while it is registered, at a node of the walk or when it is asked for
its findings. Its lone run tells which: `Detector.stage?`. The records that detectors deserve by
their stages, in the order of the faults, are `orderedFaults`; there is one for each detector that
fails, and none for the others (`orderedFaults_perm`).
-/

namespace ContractAudit

/-- The part of its run in which a detector fails. -/
inductive Stage where
  | registering
  /-- At the node at a position of the preorder. -/
  | visiting (position : Nat)
  | finishing
  deriving DecidableEq

/-- The record of a detector that fails at a stage. -/
def Stage.record? (root : Node) (name : String) : Stage → Option FaultRecord
  | registering => some (.register name)
  | visiting position => (root.preorder[position]?).map fun node => .handle name node.loc.line
  | finishing => some (.collect name)

namespace HandlerTable

variable {σ : Type}

/-- The position of the first node at which a handler fails. -/
def faultIndex? (table : HandlerTable σ) (s : σ) : List Node → Option Nat
  | [] => none
  | node :: rest =>
    match table.atNode s node with
    | ⟨s', none⟩ => (faultIndex? table s' rest).map (· + 1)
    | ⟨_, some _⟩ => some 0

/-- No handler fails exactly if the walk has no fault. -/
lemma faultIndex?_eq_none_iff {table : HandlerTable σ} {s : σ} {nodes : List Node} :
    table.faultIndex? s nodes = none ↔ (table.overNodes s nodes).fault = none := by
  induction nodes generalizing s with
  | nil => simp [faultIndex?, overNodes]
  | cons node rest ih =>
    rcases e : table.atNode s node with ⟨s', _ | fault⟩
    · simp [faultIndex?, overNodes, e, ih]
    · simp [faultIndex?, overNodes, e]

/-- If no handler fails, the last state survives. -/
lemma survivor_of_faultIndex?_eq_none {table : HandlerTable σ} {s : σ} {nodes : List Node}
    (h : table.faultIndex? s nodes = none) :
    (table.overNodes s nodes).survivor = some (table.overNodes s nodes).state := by
  rw [Aftermath.survivor, faultIndex?_eq_none_iff.1 h]

/-- If a handler fails, no state survives. -/
lemma survivor_of_faultIndex?_eq_some {table : HandlerTable σ} {s : σ} {nodes : List Node}
    {position : Nat} (h : table.faultIndex? s nodes = some position) :
    (table.overNodes s nodes).survivor = none := by
  have hfault : (table.overNodes s nodes).fault ≠ none := by
    intro hnone
    rw [faultIndex?_eq_none_iff.2 hnone] at h
    cases h
  obtain ⟨fault, hfault⟩ := Option.ne_none_iff_exists'.1 hfault
  rw [Aftermath.survivor, hfault]

/-- The place of a fault is the place of a node. -/
lemma lt_of_faultIndex?_eq_some {table : HandlerTable σ} {s : σ} {nodes : List Node}
    {position : Nat} (h : table.faultIndex? s nodes = some position) : position < nodes.length := by
  induction nodes generalizing s position with
  | nil => cases h
  | cons node rest ih =>
    rcases e : table.atNode s node with ⟨s', _ | fault⟩
    · obtain ⟨before, hbefore, rfl⟩ : ∃ before, table.faultIndex? s' rest = some before ∧
          before + 1 = position := by
        simpa [faultIndex?, e] using h
      exact Nat.succ_lt_succ (ih hbefore)
    · obtain rfl : 0 = position := by simpa [faultIndex?, e] using h
      exact Nat.succ_pos _

/-- After a node at which nothing fails, the walk goes on from its state. -/
lemma survivor_overNodes_cons (table : HandlerTable σ) (s : σ) (node : Node) (rest : List Node) :
    (table.overNodes s (node :: rest)).survivor =
      (table.atNode s node).survivor.bind fun s' => (table.overNodes s' rest).survivor := by
  rcases e : table.atNode s node with ⟨s', _ | fault⟩
  · simp [overNodes, e]
  · simp [overNodes, e]

/-- The first fault is at a node if nothing fails before it and something fails there. -/
lemma faultIndex?_eq_length_iff {table : HandlerTable σ} {s : σ} {before after : List Node}
    {node : Node} :
    table.faultIndex? s (before ++ node :: after) = some before.length ↔
      ∃ s', (table.overNodes s before).survivor = some s' ∧
        (table.atNode s' node).survivor = none := by
  induction before generalizing s with
  | nil =>
    rcases e : table.atNode s node with ⟨s', _ | fault⟩
    · simp [faultIndex?, overNodes, e]
    · simp [faultIndex?, overNodes, e]
  | cons first before ih =>
    rw [survivor_overNodes_cons]
    rcases e : table.atNode s first with ⟨s', _ | fault⟩
    · simp [faultIndex?, e, ih]
    · simp [faultIndex?, e]

end HandlerTable

namespace Detector

/-- Where a detector fails when it runs alone, if it does. -/
def stage? (d : Detector) (root : Node) : Option Stage :=
  match d.register with
  | .error _ => some .registering
  | .ok (s, table) =>
    match table.faultIndex? s root.preorder with
    | some position => some (.visiting position)
    | none =>
      match d.finish (table.overNodes s root.preorder).state with
      | .error _ => some .finishing
      | .ok _ => none

/-- The record of a detector that fails. -/
def faultRecord? (d : Detector) (root : Node) : Option FaultRecord :=
  (d.stage? root).bind (Stage.record? root d.name)

/-- A detector whose handlers fail nowhere goes over all nodes and is asked for its findings. -/
lemma detect_of_faultIndex?_eq_none {d : Detector} {root : Node} {s table}
    (hregister : d.register = .ok (s, table)) (h : table.faultIndex? s root.preorder = none) :
    d.detect root = d.finish (table.overNodes s root.preorder).state := by
  have hwalk := HandlerTable.faultIndex?_eq_none_iff.1 h
  rcases e : table.overNodes s root.preorder with ⟨s', fault⟩
  obtain rfl : fault = none := by simpa [e] using hwalk
  simp only [detect, hregister, Node.walk_eq_preorder, e]

/-- A lone run with a fault in its walk fails. -/
lemma detect_of_faultIndex?_eq_some {d : Detector} {root : Node} {s table} {position : Nat}
    (hregister : d.register = .ok (s, table))
    (h : table.faultIndex? s root.preorder = some position) : ∃ e, d.detect root = .error e := by
  have hwalk : (table.overNodes s root.preorder).fault ≠ none := by
    intro hnone
    rw [HandlerTable.faultIndex?_eq_none_iff.2 hnone] at h
    cases h
  rcases e : table.overNodes s root.preorder with ⟨s', _ | fault⟩
  · simp [e] at hwalk
  · exact ⟨fault, by simp only [detect, hregister, Node.walk_eq_preorder, e]⟩

/-- A detector that cannot be registered fails at that stage. -/
lemma stage?_of_error {d : Detector} {e : Fault} (root : Node) (h : d.register = .error e) :
    d.stage? root = some .registering := by
  simp [stage?, h]

/-- A detector whose handler fails does so at that node. -/
lemma stage?_of_faultIndex?_eq_some {d : Detector} {root : Node} {s table} {position : Nat}
    (hregister : d.register = .ok (s, table))
    (h : table.faultIndex? s root.preorder = some position) :
    d.stage? root = some (.visiting position) := by
  simp [stage?, hregister, h]

/-- A detector whose handlers do not fail can still fail when it is asked for findings. -/
lemma stage?_of_faultIndex?_eq_none {d : Detector} {root : Node} {s table}
    (hregister : d.register = .ok (s, table)) (h : table.faultIndex? s root.preorder = none) :
    d.stage? root =
      match d.finish (table.overNodes s root.preorder).state with
      | .error _ => some .finishing
      | .ok _ => none := by
  simp [stage?, hregister, h]

/-- The detectors that fail at no stage are those that give findings. -/
lemma stage?_eq_none_iff {d : Detector} {root : Node} :
    d.stage? root = none ↔ ∃ found, d.detect root = .ok found := by
  rcases hregister : d.register with e | ⟨s, table⟩
  · simp [stage?_of_error root hregister, detect, hregister]
  · rcases h : table.faultIndex? s root.preorder with _ | position
    · rw [stage?_of_faultIndex?_eq_none hregister h, detect_of_faultIndex?_eq_none hregister h]
      cases d.finish (table.overNodes s root.preorder).state with
      | ok found => simp
      | error e => simp
    · obtain ⟨e, he⟩ := detect_of_faultIndex?_eq_some hregister h
      simp [stage?_of_faultIndex?_eq_some hregister h, he]

/-- A detector fails at a node exactly if it is registered and a handler fails there first. -/
lemma stage?_eq_visiting_iff {d : Detector} {root : Node} {position : Nat} :
    d.stage? root = some (.visiting position) ↔
      ∃ s table, d.register = .ok (s, table) ∧
        table.faultIndex? s root.preorder = some position := by
  constructor
  · intro h
    rcases hregister : d.register with e | ⟨s, table⟩
    · simp [stage?_of_error root hregister] at h
    · refine ⟨s, table, rfl, ?_⟩
      rcases hindex : table.faultIndex? s root.preorder with _ | first
      · rw [stage?_of_faultIndex?_eq_none hregister hindex] at h
        split at h
        · cases h
        · cases h
      · rw [stage?_of_faultIndex?_eq_some hregister hindex] at h
        cases h
        rfl
  · rintro ⟨s, table, hregister, h⟩
    exact stage?_of_faultIndex?_eq_some hregister h

/-- There is a record for a detector that fails and for no other. -/
lemma faultRecord?_eq_none_iff {d : Detector} {root : Node} :
    d.faultRecord? root = none ↔ d.stage? root = none := by
  unfold faultRecord?
  rcases h : d.stage? root with _ | _ | position | _
  · simp
  · simp [Stage.record?]
  · -- the position is that of a node of the tree, so there is a line to name
    obtain ⟨s, table, -, hindex⟩ := stage?_eq_visiting_iff.1 h
    simp [Stage.record?, HandlerTable.lt_of_faultIndex?_eq_some hindex]
  · simp [Stage.record?]

end Detector

/-- The names of the detectors that fail at a stage, in the order of the detectors. -/
def failingAt (root : Node) (ds : List Detector) (stage : Stage) : List String :=
  (ds.filter fun d => d.stage? root = some stage).map Detector.name

/-- The records of detectors: those that cannot be registered, those that fail at a node, by its
position in the tree, and those that fail at the end. -/
def orderedFaults (root : Node) (ds : List Detector) : List FaultRecord :=
  (failingAt root ds .registering).map .register ++
    root.preorder.zipIdx.flatMap (fun row =>
      (failingAt root ds (.visiting row.2)).map fun name => .handle name row.1.loc.line) ++
    (failingAt root ds .finishing).map .collect

/-- Who fails at a stage, the first detector before the others. -/
lemma failingAt_cons (root : Node) (d : Detector) (ds : List Detector) (stage : Stage) :
    failingAt root (d :: ds) stage = failingAt root [d] stage ++ failingAt root ds stage := by
  simp only [failingAt, List.filter_cons, List.filter_nil]
  split
  · rfl
  · rfl

/-- A lone detector fails at its own stage. -/
lemma failingAt_singleton (root : Node) (d : Detector) (stage : Stage) :
    failingAt root [d] stage = if d.stage? root = some stage then [d.name] else [] := by
  simp only [failingAt, List.filter_cons, List.filter_nil, decide_eq_true_eq]
  split
  · rfl
  · rfl

/-- A choice by position has at most the element at this position. -/
lemma flatMap_zipIdx_ite {α β : Type} (f : α → β) (l : List α) (start position : Nat) :
    ((l.zipIdx start).flatMap fun row => if start + position = row.2 then [f row.1] else []) =
      (l[position]?.map f).toList := by
  induction l generalizing start position with
  | nil => rfl
  | cons a l ih =>
    rw [List.zipIdx_cons, List.flatMap_cons]
    cases position with
    | zero =>
      have hrest : ((l.zipIdx (start + 1)).flatMap fun row =>
          if start + 0 = row.2 then [f row.1] else []) = [] := by
        rw [List.flatMap_eq_nil_iff]
        intro row hrow
        have hle := List.le_snd_of_mem_zipIdx hrow
        exact if_neg (by omega)
      rw [hrest]
      simp
    | succ position =>
      have hplace : start + (position + 1) = start + 1 + position := by omega
      rw [hplace, ih, if_neg (by omega), List.nil_append, List.getElem?_cons_succ]

/-- A lone detector deserves at most one record. -/
lemma orderedFaults_singleton (root : Node) (d : Detector) :
    orderedFaults root [d] = (d.faultRecord? root).toList := by
  simp only [orderedFaults, failingAt_singleton, Detector.faultRecord?]
  rcases d.stage? root with _ | _ | position | _
  · simp
  · simp [Stage.record?]
  · have hplace := flatMap_zipIdx_ite
      (fun node : Node => FaultRecord.handle d.name node.loc.line) root.preorder 0 position
    simpa [Stage.record?, apply_ite] using hplace
  · simp [Stage.record?]

/-- The record of a detector goes to the place that its stage has among the others. -/
lemma orderedFaults_cons_perm (root : Node) (d : Detector) (ds : List Detector) :
    (orderedFaults root (d :: ds)).Perm (orderedFaults root [d] ++ orderedFaults root ds) := by
  have hvisits := List.flatMap_append_perm root.preorder.zipIdx
    (fun row => (failingAt root [d] (.visiting row.2)).map fun name =>
      FaultRecord.handle name row.1.loc.line)
    (fun row => (failingAt root ds (.visiting row.2)).map fun name =>
      FaultRecord.handle name row.1.loc.line)
  rw [List.perm_iff_count] at hvisits ⊢
  intro record
  have hcount := hvisits record
  simp only [orderedFaults, failingAt_cons root d ds, List.map_append,
    List.count_append] at hcount ⊢
  omega

/-- The records are one for each detector that fails. -/
lemma orderedFaults_perm (root : Node) (ds : List Detector) :
    (orderedFaults root ds).Perm (ds.filterMap fun d => d.faultRecord? root) := by
  induction ds with
  | nil => simp [orderedFaults, failingAt]
  | cons d ds ih =>
    refine (orderedFaults_cons_perm root d ds).trans ?_
    rw [orderedFaults_singleton]
    cases hd : d.faultRecord? root with
    | none => simpa [List.filterMap_cons, hd] using ih
    | some record => simpa [List.filterMap_cons, hd] using ih

/-- Names are collected detector by detector. -/
lemma map_failingAt {α : Type} (root : Node) (ds : List Detector) (stage : Stage)
    (f : String → α) :
    (failingAt root ds stage).map f = ds.flatMap fun d => (failingAt root [d] stage).map f := by
  induction ds with
  | nil => rfl
  | cons d ds ih => rw [failingAt_cons, List.map_append, ih, List.flatMap_cons]

end ContractAudit
