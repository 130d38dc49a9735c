import ContractAudit.Proofs.FaultStages
import Mathlib.Data.List.Induction

/-!
# Faults on record

The records of a shared run are those that its detectors deserve by the stages at which they fail.
A detector that has failed is left as its fault leaves it: to see the calls of its handlers,
detectors are made to note them (`Detector.noting`). The main statement is
`runDetectors_orderedFaults`.
-/

namespace ContractAudit

/-! ## Records of a shared run -/

/-- The record that an instance leaves at a node, if one of its handlers fails there. -/
def Instance.lostAt (i : Instance) (node : Node) : List FaultRecord :=
  match (i.table.atNode i.state node).fault with
  | none => []
  | some _ => [.handle i.detector.name node.loc.line]

/-- One turn of an instance adds the record of its fault, if it has one. -/
lemma SharedRun.records_settle (run : SharedRun) (place : Nat) (i : Instance) (node : Node) :
    (run.settle place i node (i.table.atNode i.state node)).records =
      run.records ++ i.lostAt node := by
  unfold settle Instance.lostAt
  cases (i.table.atNode i.state node).fault with
  | none => simp
  | some fault => simp [fail]

namespace Enrolment

/-- The instance that stands at a place, if any, has the handlers of this detector. -/
def Fits (run : SharedRun) (place : Nat) (d : Detector) : Prop :=
  ∀ i, run.standing place = some i → ∃ i₀, Instance.ofDetector? d = some i₀ ∧ i.kinds = i₀.kinds

/-- Whether a place fits depends on its seat only. -/
lemma Fits.of_seat_eq {run run' : SharedRun} {place : Nat} {d : Detector}
    (h : Fits run place d) (hseat : run'.seat place = run.seat place) : Fits run' place d := by
  intro i hi
  exact h i ((SharedRun.standing_eq_of_seat_eq hseat).symm.trans hi)

/-- The callbacks of a detector add the record of its fault at a node. -/
lemma records_callbacksOf {d : Detector} {place : Nat} (node : Node) {run : SharedRun}
    (h : Fits run place d) :
    (Registrations.visitNode (callbacksOf place d) run node).records =
      run.records ++ (run.standing place).elim [] fun i => i.lostAt node := by
  cases hi : run.standing place with
  | none =>
    rw [visitNode_callbacksOf_of_none d node hi]
    exact (List.append_nil _).symm
  | some i =>
    obtain ⟨i₀, hi₀, hkinds⟩ := h i hi
    rw [visitNode_callbacksOf_of_some node hi₀ hkinds hi]
    exact run.records_settle place i node

/-- At a node, the detectors that fail leave their records in their order. -/
lemma records_callbacksOfAll (ds : List Detector) (start : Nat) (node : Node) (run : SharedRun)
    (h : ∀ row ∈ ds.zipIdx start, Fits run row.2 row.1) :
    (Registrations.visitNode (callbacksOfAll start ds) run node).records =
      run.records ++ (ds.zipIdx start).flatMap fun row =>
        (run.standing row.2).elim [] fun i => i.lostAt node := by
  induction ds generalizing start run with
  | nil => exact (List.append_nil _).symm
  | cons d ds ih =>
    rw [List.zipIdx_cons] at h ⊢
    rw [callbacksOfAll, Registrations.visitNode_append]
    -- the detectors that come later are still as they were before the node
    have hseat : ∀ row ∈ ds.zipIdx (start + 1),
        (Registrations.visitNode (callbacksOf start d) run node).seat row.2 = run.seat row.2 := by
      intro row hrow
      have hle := List.le_snd_of_mem_zipIdx hrow
      exact seat_callbacksOf_of_ne d node run (by omega)
    rw [ih, records_callbacksOf node (h _ List.mem_cons_self), List.flatMap_cons,
      List.append_assoc]
    · congr 2
      rw [List.flatMap_def, List.flatMap_def, List.map_congr_left]
      intro row hrow
      rw [SharedRun.standing_eq_of_seat_eq (hseat row hrow)]
    · intro row hrow
      exact (h row (List.mem_cons_of_mem _ hrow)).of_seat_eq (hseat row hrow)

/-- Enrolling a detector adds a record exactly if it cannot be registered. -/
lemma records_enrol (root : Node) (e : Enrolment) (d : Detector) :
    (e.enrol d).run.records =
      e.run.records ++ (failingAt root [d] .registering).map .register := by
  rcases hregister : d.register with fault | ⟨s, table⟩
  · have hstage := d.stage?_of_error root hregister
    simp [enrol, Instance.ofDetector?, hregister, failingAt_singleton, hstage, SharedRun.fail]
  · have hstage : d.stage? root ≠ some .registering := by
      intro h
      simp only [Detector.stage?, hregister] at h
      split at h
      · cases h
      · split at h
        · cases h
        · cases h
    simp [enrol, Instance.ofDetector?, hregister, failingAt_singleton, hstage]

/-- Registering leaves the records of the detectors that cannot be registered. -/
lemma records_foldl_enrol (root : Node) (ds : List Detector) (e : Enrolment) :
    (ds.foldl enrol e).run.records =
      e.run.records ++ (failingAt root ds .registering).map .register := by
  induction ds generalizing e with
  | nil => exact (List.append_nil _).symm
  | cons d ds ih =>
    rw [List.foldl_cons, ih, records_enrol root, failingAt_cons root d ds, List.map_append,
      List.append_assoc]

end Enrolment

/-- After the nodes before it, a node takes the detectors that fail there first. -/
lemma Detector.lostAt_afterNodes {root node : Node} {before after : List Node}
    (hroot : root.preorder = before ++ node :: after) (d : Detector) :
    (((Instance.ofDetector? d).bind fun i => i.afterNodes before).elim []
        fun i => i.lostAt node) =
      (failingAt root [d] (.visiting before.length)).map fun name =>
        .handle name node.loc.line := by
  have hstage : d.stage? root = some (.visiting before.length) ↔ ∃ s table,
      d.register = .ok (s, table) ∧ ∃ s', (table.overNodes s before).survivor = some s' ∧
        (table.atNode s' node).survivor = none := by
    rw [stage?_eq_visiting_iff, hroot]
    simp only [HandlerTable.faultIndex?_eq_length_iff]
  rw [failingAt_singleton]
  unfold Instance.ofDetector?
  rcases hregister : d.register with fault | ⟨s, table⟩
  · simp [hstage, hregister]
  · rcases hwalk : (table.overNodes s before).survivor with _ | s'
    · simp [hstage, hregister, Instance.afterNodes, hwalk]
    · rcases hnode : table.atNode s' node with ⟨s'', _ | fault⟩
      · simp [hstage, hregister, Instance.afterNodes, hwalk, Instance.lostAt, Instance.withState,
          hnode]
      · simp [hstage, hregister, Instance.afterNodes, hwalk, Instance.lostAt, Instance.withState,
          hnode]

namespace Enrolment

/-- Along a walk, the records of faults come by node and at a node by detector. -/
lemma records_walk {root : Node} (ds : List Detector) {before after : List Node}
    (hroot : root.preorder = before ++ after) :
    (before.foldl (callbacksOfAll 0 ds).visitNode (ds.foldl enrol empty).run).records =
      (failingAt root ds .registering).map .register ++ before.zipIdx.flatMap fun row =>
        (failingAt root ds (.visiting row.2)).map fun name => .handle name row.1.loc.line := by
  -- from the end of the walk, so that what comes before the last node is itself a walk
  induction before using List.reverseRecOn generalizing after with
  | nil => simpa [empty, SharedRun.empty] using records_foldl_enrol root ds empty
  | append_singleton before node ih =>
    have hsplit : root.preorder = before ++ node :: after := by simpa using hroot
    have hstanding : ∀ row ∈ ds.zipIdx,
        (before.foldl (callbacksOfAll 0 ds).visitNode (ds.foldl enrol empty).run).standing row.2 =
          (Instance.ofDetector? row.1).bind fun i => i.afterNodes before :=
      fun row hrow => standing_walk before (List.mem_zipIdx_iff_getElem?.1 hrow)
    have hnode : (ds.zipIdx.flatMap fun row =>
        ((before.foldl (callbacksOfAll 0 ds).visitNode (ds.foldl enrol empty).run).standing
          row.2).elim [] fun i => i.lostAt node) =
        (failingAt root ds (.visiting before.length)).map fun name =>
          FaultRecord.handle name node.loc.line := by
      rw [map_failingAt, ← List.zipIdx_map_fst 0 ds, List.flatMap_map, List.zipIdx_map_fst,
        List.flatMap_def, List.flatMap_def, List.map_congr_left]
      intro row hrow
      rw [hstanding row hrow]
      exact Detector.lostAt_afterNodes hsplit row.1
    rw [List.foldl_append, List.foldl_cons, List.foldl_nil, records_callbacksOfAll, ih hsplit,
      hnode, List.append_assoc, List.zipIdx_append, List.flatMap_append]
    · simp
    · intro row hrow i hi
      rw [hstanding row hrow, Option.bind_eq_some_iff] at hi
      obtain ⟨i₀, hi₀, hafter⟩ := hi
      obtain ⟨s, -, rfl⟩ := Option.map_eq_some_iff.1 hafter
      exact ⟨i₀, hi₀, rfl⟩

end Enrolment

/-- What a detector leaves on record at the end. -/
lemma Detector.snd_endedOver (d : Detector) (root : Node) :
    (d.endedOver root).2 = (failingAt root [d] .finishing).map .collect := by
  unfold endedOver Instance.ofDetector?
  rw [failingAt_singleton]
  rcases hregister : d.register with fault | ⟨s, table⟩
  · simp [stage?_of_error root hregister]
  · simp only [Option.bind_some, Instance.afterNodes, Node.walk_eq_preorder]
    rcases hindex : table.faultIndex? s root.preorder with _ | position
    · rw [stage?_of_faultIndex?_eq_none hregister hindex,
        HandlerTable.survivor_of_faultIndex?_eq_none hindex]
      simp only [Option.map_some, Option.elim_some, Instance.ended, Instance.withState]
      cases d.finish (table.overNodes s root.preorder).state with
      | ok found => simp
      | error fault => simp
    · rw [stage?_of_faultIndex?_eq_some hregister hindex,
        HandlerTable.survivor_of_faultIndex?_eq_some hindex]
      simp

/-- The records of a shared run: who cannot be registered, who fails at a node, by its position in
the tree, and who fails at the end, each in the order of the detectors. -/
lemma snd_runDetectors (root : Node) (ds : List Detector) :
    (runDetectors root ds).2 = orderedFaults root ds := by
  have hwalk := Enrolment.records_walk ds (List.append_nil root.preorder).symm
  simp only [runDetectors_eq, Dispatcher.run, Enrolment.visitNode_enrolled, Node.walk_eq_preorder,
    hwalk, Detector.snd_endedOver, ← map_failingAt]
  rfl

/-! ## What a run depends on -/

namespace Detector

/-- A detector that fails finds nothing. -/
lemma foundOver_of_stage?_eq_some {d : Detector} {root : Node} {stage : Stage}
    (h : d.stage? root = some stage) : d.foundOver root = [] := by
  rw [foundOver_eq]
  cases hfound : d.detect root with
  | ok found =>
    rw [stage?_eq_none_iff.2 ⟨found, hfound⟩] at h
    cases h
  | error fault => rfl

/-- All that a shared run shows of a detector. -/
def outcome (root : Node) (d : Detector) : String × Option Stage × List Finding :=
  (d.name, d.stage? root, d.foundOver root)

/-- Detectors of one name that fail at the same stage have the same outcome. -/
lemma outcome_eq_of_stage?_eq_some {d e : Detector} {root : Node} {stage : Stage}
    (hname : e.name = d.name) (hd : d.stage? root = some stage) (he : e.stage? root = some stage) :
    e.outcome root = d.outcome root := by
  rw [outcome, outcome, hname, hd, he, foundOver_of_stage?_eq_some hd,
    foundOver_of_stage?_eq_some he]

/-- So do detectors of one name that fail at no node and give the same at the end. -/
lemma outcome_eq_of_finish_eq {d e : Detector} {root : Node} {s table s' table'}
    (hname : e.name = d.name) (hd : d.register = .ok (s, table))
    (he : e.register = .ok (s', table')) (hdindex : table.faultIndex? s root.preorder = none)
    (heindex : table'.faultIndex? s' root.preorder = none)
    (hfinish : e.finish (table'.overNodes s' root.preorder).state =
      d.finish (table.overNodes s root.preorder).state) :
    e.outcome root = d.outcome root := by
  rw [outcome, outcome, hname, stage?_of_faultIndex?_eq_none hd hdindex,
    stage?_of_faultIndex?_eq_none he heindex, foundOver_eq, foundOver_eq,
    detect_of_faultIndex?_eq_none hd hdindex, detect_of_faultIndex?_eq_none he heindex, hfinish]

end Detector

/-- Who fails at a stage is read off the outcomes. -/
lemma failingAt_eq_of_outcome (root : Node) (ds : List Detector) (stage : Stage) :
    failingAt root ds stage =
      ((ds.map (Detector.outcome root)).filter fun o => o.2.1 = some stage).map Prod.fst := by
  rw [List.filter_map, List.map_map]
  rfl

/-- A detector can be exchanged for another one with the same outcome. -/
lemma runDetectors_congr {root : Node} {ds es : List Detector}
    (h : ds.map (Detector.outcome root) = es.map (Detector.outcome root)) :
    runDetectors root ds = runDetectors root es := by
  have hfound : ∀ ds : List Detector, (ds.flatMap fun d => d.foundOver root) =
      (ds.map (Detector.outcome root)).flatMap fun o => o.2.2 := by
    intro ds
    rw [List.flatMap_map]
    rfl
  apply Prod.ext
  · rw [fst_runDetectors, fst_runDetectors, hfound, hfound, h]
  · simp only [snd_runDetectors, orderedFaults, failingAt_eq_of_outcome, h]

/-! ## Calls -/

/-- A call of a handler at a node. -/
structure Call where
  node : Node
  fault : Option Fault

/-- No call fails if there is no position, and else only the last one does, at the node there. -/
def StopsAt (nodes : List Node) (calls : List Call) : Option Nat → Prop
  | none => ∀ call ∈ calls, call.fault = none
  | some position => ∃ before node fault, calls = before ++ [⟨node, some fault⟩] ∧
      nodes[position]? = some node ∧ ∀ call ∈ before, call.fault = none

namespace HandlerTable

variable {σ : Type}

/-- The same handlers with a note of every call. -/
def noting (table : HandlerTable σ) : HandlerTable (σ × List Call) :=
  table.map fun row => (row.1, fun s node =>
    ⟨((row.2 s.1 node).state, s.2 ++ [⟨node, (row.2 s.1 node).fault⟩]), (row.2 s.1 node).fault⟩)

/-- At a node, handlers that note their calls do the same, up to the first call that fails. -/
lemma atNode_noting (table : HandlerTable σ) (s : σ) (calls : List Call) (node : Node) :
    ∃ before : List Call, (∀ call ∈ before, call.fault = none) ∧
      table.noting.atNode (s, calls) node =
        ⟨((table.atNode s node).state, calls ++ before ++
          ((table.atNode s node).fault.map fun fault => ⟨node, some fault⟩).toList),
          (table.atNode s node).fault⟩ := by
  induction table generalizing s calls with
  | nil => exact ⟨[], by simp, by simp [noting, atNode]⟩
  | cons row table ih =>
    rcases row with ⟨kind, handler⟩
    by_cases hk : kind = node.kind
    · rcases e : handler s node with ⟨s', _ | fault⟩
      · obtain ⟨before, hbefore, hrest⟩ := ih s' (calls ++ [⟨node, none⟩])
        refine ⟨⟨node, none⟩ :: before, by simpa using hbefore, ?_⟩
        simpa [noting, atNode, hk, e] using hrest
      · exact ⟨[], by simp, by simp [noting, atNode, hk, e]⟩
    · obtain ⟨before, hbefore, hrest⟩ := ih s calls
      exact ⟨before, hbefore, by simpa [noting, atNode, hk] using hrest⟩

/-- Over nodes, handlers that note their calls do the same, up to the first call that fails. -/
lemma overNodes_noting (table : HandlerTable σ) (s : σ) (calls : List Call) (nodes : List Node)
    (hcalls : ∀ call ∈ calls, call.fault = none) :
    ∃ calls', StopsAt nodes calls' (table.faultIndex? s nodes) ∧
      table.noting.overNodes (s, calls) nodes =
        ⟨((table.overNodes s nodes).state, calls'), (table.overNodes s nodes).fault⟩ := by
  induction nodes generalizing s calls with
  | nil => exact ⟨calls, hcalls, rfl⟩
  | cons node nodes ih =>
    obtain ⟨before, hbefore, hnode⟩ := table.atNode_noting s calls node
    have hsofar : ∀ call ∈ calls ++ before, call.fault = none := by
      intro call hcall
      rcases List.mem_append.1 hcall with hcall | hcall
      · exact hcalls call hcall
      · exact hbefore call hcall
    rcases e : table.atNode s node with ⟨s', _ | fault⟩
    · obtain ⟨calls', hstops, hrest⟩ := ih s' (calls ++ before) hsofar
      refine ⟨calls', ?_, ?_⟩
      · simp only [faultIndex?, e]
        -- positions move on by the node that is done
        cases hindex : table.faultIndex? s' nodes with
        | none =>
          rw [hindex] at hstops
          exact hstops
        | some position =>
          rw [hindex] at hstops
          exact hstops
      · simpa [overNodes, e, hnode] using hrest
    · refine ⟨calls ++ before ++ [⟨node, some fault⟩], ?_, ?_⟩
      · simp only [faultIndex?, e]
        exact ⟨_, node, fault, rfl, rfl, hsofar⟩
      · simp [overNodes, e, hnode]

/-- Handlers that note their calls fail at the same node. -/
lemma faultIndex?_noting (table : HandlerTable σ) (s : σ) (calls : List Call) (nodes : List Node) :
    table.noting.faultIndex? (s, calls) nodes = table.faultIndex? s nodes := by
  induction nodes generalizing s calls with
  | nil => rfl
  | cons node nodes ih =>
    obtain ⟨before, -, hnode⟩ := table.atNode_noting s calls node
    rcases e : table.atNode s node with ⟨s', _ | fault⟩
    · simp [faultIndex?, hnode, e, ih]
    · simp [faultIndex?, hnode, e]

end HandlerTable

namespace Detector

/-- The same detector with a note of every call of its handlers. -/
def noting (d : Detector) : Detector where
  name := d.name
  State := d.State × List Call
  start :=
    match d.start with
    | .error e => .error e
    | .ok s => .ok (s, [])
  handlers s :=
    match d.handlers s.1 with
    | .error e => .error e
    | .ok made => .ok ((made.1, s.2), made.2.noting)
  finish s := d.finish s.1

/-- A detector that cannot be registered cannot be with notes either. -/
lemma register_noting_of_error {d : Detector} {e : Fault} (h : d.register = .error e) :
    d.noting.register = .error e := by
  unfold register noting at *
  rcases hstart : d.start with e' | s
  · simp_all
  · simp_all

/-- A detector that is registered starts with no notes. -/
lemma register_noting_of_ok {d : Detector} {s table} (h : d.register = .ok (s, table)) :
    d.noting.register = .ok ((s, []), table.noting) := by
  unfold register noting at *
  rcases hstart : d.start with e' | s'
  · simp_all
  · simp_all

/-- Taking notes changes nothing of what a run shows. -/
lemma outcome_noting (root : Node) (d : Detector) : d.noting.outcome root = d.outcome root := by
  rcases hregister : d.register with fault | ⟨s, table⟩
  · exact outcome_eq_of_stage?_eq_some rfl (stage?_of_error root hregister)
      (stage?_of_error root (register_noting_of_error hregister))
  · have hnoting := register_noting_of_ok hregister
    have hsame := table.faultIndex?_noting s [] root.preorder
    rcases hindex : table.faultIndex? s root.preorder with _ | position
    · obtain ⟨calls, -, hwalk⟩ := table.overNodes_noting s [] root.preorder (by simp)
      refine outcome_eq_of_finish_eq rfl hregister hnoting hindex (hsame.trans hindex) ?_
      exact congrArg (fun left : Aftermath (d.State × List Call) => d.finish left.state.1) hwalk
    · exact outcome_eq_of_stage?_eq_some rfl (stage?_of_faultIndex?_eq_some hregister hindex)
        (stage?_of_faultIndex?_eq_some hnoting (hsame.trans hindex))

/-- What a detector would end with makes no difference if it fails before its end. -/
lemma outcome_finish {d : Detector} {root : Node} {stage : Stage}
    (h : d.stage? root = some stage) (hearly : stage ≠ .finishing)
    (finish : d.State → Except Fault (List Finding)) :
    Detector.outcome root { d with finish := finish } = d.outcome root := by
  refine outcome_eq_of_stage?_eq_some rfl h ?_
  have hsame : Detector.register { d with finish := finish } = d.register := by
    unfold register
    cases d.start with
    | error fault => rfl
    | ok s => rfl
  rcases hregister : d.register with fault | ⟨s, table⟩
  · rw [stage?_of_error root hregister] at h
    rw [stage?_of_error root (hsame.trans hregister), h]
  · rcases hindex : table.faultIndex? s root.preorder with _ | position
    · rw [stage?_of_faultIndex?_eq_none hregister hindex] at h
      split at h
      · cases h
        exact absurd rfl hearly
      · cases h
    · rw [stage?_of_faultIndex?_eq_some hregister hindex] at h
      rw [stage?_of_faultIndex?_eq_some (hsame.trans hregister) hindex, h]

end Detector

/-- The run after the walk, before the detectors are asked for their findings. -/
def sharedWalk (root : Node) (ds : List Detector) : SharedRun :=
  (ds.foldl Enrolment.enrol .empty).visitor.run root (ds.foldl Enrolment.enrol .empty).run

/-- The whole run is the walk and the findings asked for after it. -/
lemma finish_sharedWalk (root : Node) (ds : List Detector) :
    (sharedWalk root ds).finish = runDetectors root ds :=
  rfl

/-- A shared walk leaves every detector as its own walk leaves it. -/
lemma seat_sharedWalk {ds : List Detector} {k : Nat} {d : Detector} {s table} (root : Node)
    (hd : ds[k]? = some d) (hregister : d.register = .ok (s, table)) :
    (sharedWalk root ds).seat k =
      Instance.seatAfter ⟨d, s, table⟩ (table.overNodes s root.preorder) := by
  have hi : Instance.ofDetector? d = some ⟨d, s, table⟩ := by
    simp [Instance.ofDetector?, hregister]
  rw [sharedWalk, Dispatcher.run, Enrolment.visitNode_enrolled, Node.walk_eq_preorder]
  exact Enrolment.seat_walk _ _ hd hi rfl ((Enrolment.standing_enrolled hd).trans hi)

/-- The position of the node at which a detector fails, if it fails at one. -/
def Stage.position? : Stage → Option Nat
  | visiting position => some position
  | _ => none

/-- A detector that is registered fails in the walk where its handlers do. -/
lemma Detector.position?_stage? {d : Detector} {s table} (root : Node)
    (hregister : d.register = .ok (s, table)) :
    (d.stage? root).bind Stage.position? = table.faultIndex? s root.preorder := by
  rcases hindex : table.faultIndex? s root.preorder with _ | position
  · rw [stage?_of_faultIndex?_eq_none hregister hindex]
    split
    · rfl
    · rfl
  · rw [stage?_of_faultIndex?_eq_some hregister hindex]
    rfl

/-- Each fault is recorded once and ends its detector. There is one record for each detector that
fails alone and none for the others: first those that cannot be registered, then those that fail at
a node, by the position of the node in the tree and at one node in the order of the detectors, each
with the line of the node, and last those that fail at the end. If the handlers note their calls,
which changes nothing of the result, no call of a detector comes after one that failed. A detector
that fails before its end is not asked for its findings: it could end with anything. -/
theorem runDetectors_orderedFaults (root : Node) (ds : List Detector) :
    (runDetectors root ds).2 = orderedFaults root ds ∧
      (runDetectors root ds).2.Perm (ds.filterMap fun d => d.faultRecord? root) ∧
      (∀ d : Detector, d.faultRecord? root = none ↔ ∃ found, d.detect root = .ok found) ∧
      (sharedWalk root (ds.map Detector.noting)).finish = runDetectors root ds ∧
      (∀ (k : Nat) (d : Detector) s table, ds[k]? = some d → d.register = .ok (s, table) →
        ∃ s' calls,
          ((sharedWalk root (ds.map Detector.noting)).seat k).held =
            some ⟨d.noting, (s', calls), table.noting⟩ ∧
          StopsAt root.preorder calls ((d.stage? root).bind Stage.position?)) ∧
      ∀ (k : Nat) (d : Detector) stage, ds[k]? = some d → d.stage? root = some stage →
        stage ≠ .finishing → ∀ finish,
          runDetectors root (ds.set k { d with finish := finish }) = runDetectors root ds := by
  refine ⟨snd_runDetectors root ds, ?_, ?_, ?_, ?_, ?_⟩
  · rw [snd_runDetectors]
    exact orderedFaults_perm root ds
  · intro d
    rw [Detector.faultRecord?_eq_none_iff, Detector.stage?_eq_none_iff]
  · rw [finish_sharedWalk]
    apply runDetectors_congr
    rw [List.map_map]
    exact List.map_congr_left fun d _ => d.outcome_noting root
  · intro k d s table hd hregister
    have hnoting : (ds.map Detector.noting)[k]? = some d.noting := by simp [hd]
    obtain ⟨calls, hstops, hwalk⟩ := table.overNodes_noting s [] root.preorder (by simp)
    refine ⟨(table.overNodes s root.preorder).state, calls, ?_, ?_⟩
    · rw [seat_sharedWalk root hnoting (Detector.register_noting_of_ok hregister)]
      exact congrArg (fun left : Aftermath (d.State × List Call) =>
        some (Instance.mk d.noting left.state table.noting)) hwalk
    · rw [Detector.position?_stage? root hregister]
      exact hstops
  · intro k d stage hd hstage hearly finish
    have hk : (ds.map (Detector.outcome root))[k]? = some (d.outcome root) := by simp [hd]
    obtain ⟨hlt, hget⟩ := List.getElem?_eq_some_iff.1 hk
    apply runDetectors_congr
    rw [List.map_set, Detector.outcome_finish hstage hearly, ← hget, List.set_getElem_self]

/-- A detector that fails at the second node of a kind. -/
def secondFails (name kind : String) : Detector where
  name := name
  State := Nat
  start := .ok 0
  handlers s := .ok (s, [(kind, fun seen _ =>
    ⟨seen + 1, if seen = 1 then some (.noAttribute "name") else none⟩)])
  finish _ := .ok []

/-- Detectors that fail at every stage, and one that does not fail. -/
def brittle : List Detector :=
  [{ secondFails "ending" "Literal" with finish := fun _ => .error (.noAttribute "end") },
    secondFails "names" "Identifier",
    { secondFails "start" "Identifier" with start := .error (.noAttribute "start") },
    secondFails "sums" "BinaryOperation",
    secondFails "quiet" "Literal"]

/-- A sum of three names on three lines. -/
def sumOfNames : Node :=
  .mk "BinaryOperation" ⟨1, 0⟩ "" [.mk "Identifier" ⟨1, 0⟩ "a" [] .plain,
    .mk "BinaryOperation" ⟨2, 2⟩ "" [.mk "Identifier" ⟨3, 2⟩ "b" [] .plain,
      .mk "Identifier" ⟨3, 6⟩ "c" [] .plain] .plain] .plain

/-- The detectors fail out of their order and are recorded as they fail, whatever those that fail
at a node would end with. -/
theorem runDetectors_orderedFaults_brittle :
    (runDetectors sumOfNames brittle).2 =
      [.register "start", .handle "sums" 2, .handle "names" 3, .collect "ending"] ∧
      (runDetectors sumOfNames (brittle.set 1 { secondFails "names" "Identifier" with
        finish := fun _ => .error (.noAttribute "end") })).2 =
      [.register "start", .handle "sums" 2, .handle "names" 3, .collect "ending"] := by
  have hrecords : orderedFaults sumOfNames brittle =
      [.register "start", .handle "sums" 2, .handle "names" 3, .collect "ending"] := by
    decide +kernel
  obtain ⟨hordered, -, -, -, -, hfinish⟩ := runDetectors_orderedFaults sumOfNames brittle
  refine ⟨hordered.trans hrecords, ?_⟩
  rw [hfinish 1 (secondFails "names" "Identifier") (.visiting 3) rfl (by decide +kernel)
    (by decide)]
  exact hordered.trans hrecords

end ContractAudit
