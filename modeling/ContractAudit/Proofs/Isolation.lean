import ContractAudit.Detector.Pipeline
import Mathlib.Data.List.Induction
import Mathlib.Tactic.Lemma

/-!
# Isolation of detectors

All detectors share one walk, and their handlers take turns at every node. What a run holds of the
detector at a place (`SharedRun.seat`) is touched by the callbacks of this place only, and it
follows the run of that detector alone node by node. The main statement is `runDetectors_findings`:
a shared run finds what the detectors find one by one.
-/

namespace ContractAudit

/-- The state that a call leaves to the next one: none if it failed. -/
def Aftermath.survivor {σ : Type} (a : Aftermath σ) : Option σ :=
  match a.fault with
  | none => some a.state
  | some _ => none

/-- A call without a fault hands its state on. -/
@[simp]
lemma Aftermath.survivor_none {σ : Type} (s : σ) :
    (Aftermath.mk s none).survivor = some s :=
  rfl

/-- A call that fails hands nothing on. -/
@[simp]
lemma Aftermath.survivor_some {σ : Type} (s : σ) (fault : Fault) :
    (Aftermath.mk s (some fault)).survivor = none :=
  rfl

namespace HandlerTable

variable {σ : Type}

/-- A handler for another kind is passed over. -/
lemma atNode_cons_of_ne {table : HandlerTable σ} {kind handler} {node : Node} (s : σ)
    (h : kind ≠ node.kind) :
    atNode ((kind, handler) :: table) s node = atNode table s node := by
  simp [atNode, h]

/-- After a handler that does not fail, the others go on from its state. -/
lemma atNode_cons_of_none {table : HandlerTable σ} {handler : Handler σ} {node : Node} {s : σ}
    (h : (handler s node).fault = none) :
    atNode ((node.kind, handler) :: table) s node = table.atNode (handler s node).state node := by
  rcases e : handler s node with ⟨s', fault⟩
  obtain rfl : fault = none := by simpa [e] using h
  simp [atNode, e]

/-- After a handler that fails, no other is called. -/
lemma atNode_cons_of_some {table : HandlerTable σ} {handler : Handler σ} {node : Node} {s : σ}
    {fault : Fault} (h : (handler s node).fault = some fault) :
    atNode ((node.kind, handler) :: table) s node = handler s node := by
  rcases e : handler s node with ⟨s', fault'⟩
  obtain rfl : fault' = some fault := by simpa [e] using h
  simp [atNode, e]

end HandlerTable

namespace Instance

/-- The kinds that an instance handles, in the order of registration. -/
def kinds (i : Instance) : List String :=
  i.table.map Prod.fst

/-- The same instance in another state. -/
def withState (i : Instance) (s : i.detector.State) : Instance :=
  { i with state := s }

/-- The instance after some nodes, as long as none of its handlers fails. -/
def afterNodes (i : Instance) (nodes : List Node) : Option Instance :=
  (i.table.overNodes i.state nodes).survivor.map i.withState

/-- What an instance finds. -/
def found (i : Instance) : List Finding :=
  match i.detector.finish i.state with
  | .ok found => found
  | .error _ => []

/-- What an instance ends with: its findings, or the record that it has none. -/
def ended (i : Instance) : List Finding × List FaultRecord :=
  match i.detector.finish i.state with
  | .ok found => (found, [])
  | .error _ => ([], [.collect i.detector.name])

/-- What an instance ends with are its findings. -/
lemma fst_ended (i : Instance) : i.ended.1 = i.found := by
  unfold ended found
  cases i.detector.finish i.state with
  | ok found => rfl
  | error e => rfl

/-- The kinds from a place on begin with the kind of the handler there. -/
lemma exists_of_drop_kinds {i : Instance} {start : Nat} {kind : String} {kinds : List String}
    (h : i.kinds.drop start = kind :: kinds) :
    ∃ row, i.table[start]? = some row ∧ row.1 = kind ∧ i.kinds.drop (start + 1) = kinds := by
  have hfirst : (i.kinds.drop start)[0]? = some kind := by
    rw [h]
    rfl
  have hrest : i.kinds.drop (start + 1) = kinds := by
    rw [← List.tail_drop, h]
    rfl
  obtain ⟨row, hrow, hkind⟩ : ∃ row, i.table[start]? = some row ∧ row.1 = kind := by
    simpa [Instance.kinds, ← List.map_drop] using hfirst
  exact ⟨row, hrow, hkind, hrest⟩

end Instance

universe u

/-- Callbacks with the kinds for which they are registered, in the order of their registration. -/
abbrev Registrations (σ : Type u) := List (String × (Node → σ → σ))

namespace Dispatcher

variable {σ : Type u}

/-- The dispatcher on which callbacks were registered one after the other. -/
def ofRegistrations (rows : Registrations σ) : Dispatcher σ :=
  rows.foldl (fun d row => d.on row.1 row.2) empty

/-- Registering more callbacks puts them behind the others. -/
lemma foldl_on (first rows : Registrations σ) :
    rows.foldl (fun d row => d.on row.1 row.2) (ofRegistrations first) =
      ofRegistrations (first ++ rows) :=
  List.foldl_append.symm

/-- The callbacks for a kind are those that were registered for it, in the order of their
registration. -/
lemma callbacks_ofRegistrations (rows : Registrations σ) (kind : String) :
    (ofRegistrations rows).callbacks kind =
      (rows.filter fun row => row.1 == kind).map Prod.snd := by
  induction rows using List.reverseRecOn with
  | nil => rfl
  | append_singleton rows row ih =>
    rw [← foldl_on, List.foldl_cons, List.foldl_nil, callbacks_on, ih, List.filter_append,
      List.map_append]
    by_cases h : row.1 = kind
    · simp [h]
    · simp [h]

end Dispatcher

namespace Registrations

variable {σ : Type u}

/-- Calls what is registered for the kind of a node. -/
def visitNode (rows : Registrations σ) (s : σ) (node : Node) : σ :=
  ((rows.filter fun row => row.1 == node.kind).map Prod.snd).foldl
    (fun s callback => callback node s) s

/-- Callbacks of two lists are called one list after the other. -/
lemma visitNode_append (a b : Registrations σ) (s : σ) (node : Node) :
    visitNode (a ++ b) s node = visitNode b (visitNode a s node) node := by
  simp [visitNode]

/-- A callback for another kind is passed over. -/
lemma visitNode_cons_of_ne {kind callback} {rows : Registrations σ} {s : σ} {node : Node}
    (h : kind ≠ node.kind) :
    visitNode ((kind, callback) :: rows) s node = visitNode rows s node := by
  simp [visitNode, h]

/-- A callback for the kind of the node comes before the others. -/
lemma visitNode_cons_of_eq {kind callback} {rows : Registrations σ} {s : σ} {node : Node}
    (h : kind = node.kind) :
    visitNode ((kind, callback) :: rows) s node = visitNode rows (callback node s) node := by
  simp [visitNode, h]

/-- What every callback keeps, a visit keeps. -/
lemma visitNode_keeps {rows : Registrations σ} {Q : σ → Prop} {node : Node}
    (h : ∀ row ∈ rows, ∀ s, Q s → Q (row.2 node s)) {s : σ} (hs : Q s) :
    Q (rows.visitNode s node) := by
  induction rows generalizing s with
  | nil => exact hs
  | cons row rows ih =>
    have hrest : ∀ row ∈ rows, ∀ s, Q s → Q (row.2 node s) :=
      fun row hrow => h row (List.mem_cons_of_mem _ hrow)
    rcases row with ⟨kind, callback⟩
    by_cases hk : kind = node.kind
    · rw [visitNode_cons_of_eq hk]
      exact ih hrest (h _ List.mem_cons_self s hs)
    · rw [visitNode_cons_of_ne hk]
      exact ih hrest hs

end Registrations

/-- A dispatcher calls what was registered. -/
lemma Dispatcher.visitNode_ofRegistrations {σ : Type u} (rows : Registrations σ) :
    (ofRegistrations rows).visitNode = rows.visitNode := by
  funext s node
  rw [visitNode, callbacks_ofRegistrations, Registrations.visitNode]

/-- What a run holds of the detector at a place. -/
structure Seat where
  failed : Bool
  held : Option Instance

/-- The seat of an instance whose handlers leave this behind. -/
def Instance.seatAfter (i : Instance) (left : Aftermath i.detector.State) : Seat :=
  ⟨left.fault.isSome, some (i.withState left.state)⟩

namespace SharedRun

/-- The instance at a place, as long as its detector has not failed. -/
def standing (run : SharedRun) (place : Nat) : Option Instance :=
  if run.failed.contains place then none else (run.instances[place]?).join

/-- The seat of a place in a run. -/
def seat (run : SharedRun) (place : Nat) : Seat :=
  ⟨run.failed.contains place, (run.instances[place]?).join⟩

/-- Whether a detector stands depends on its seat only. -/
lemma standing_eq_of_seat_eq {run run' : SharedRun} {place : Nat}
    (h : run.seat place = run'.seat place) : run.standing place = run'.standing place := by
  obtain ⟨hfailed, hheld⟩ := Seat.mk.inj h
  rw [standing, standing, hfailed, hheld]

/-- A detector stands exactly if it has an instance and has not failed. -/
lemma standing_eq_some_iff {run : SharedRun} {place : Nat} {i : Instance} :
    run.standing place = some i ↔
      run.failed.contains place = false ∧ run.instances[place]? = some (some i) := by
  unfold standing
  cases run.failed.contains place with
  | true => simp
  | false => simp [Option.join_eq_some_iff]

/-- A detector stands after its handlers if none of them has failed. -/
lemma standing_of_seat_eq_seatAfter {run : SharedRun} {place : Nat} {i : Instance}
    {left : Aftermath i.detector.State} (h : run.seat place = i.seatAfter left) :
    run.standing place = left.survivor.map i.withState := by
  obtain ⟨hfailed, hheld⟩ := Seat.mk.inj h
  rw [standing, hfailed, hheld]
  unfold Aftermath.survivor
  cases left.fault with
  | none => rfl
  | some fault => rfl

/-- The run after handlers of the detector at a place have left this behind at a node. -/
def settle (run : SharedRun) (place : Nat) (i : Instance) (node : Node)
    (left : Aftermath i.detector.State) : SharedRun :=
  let called := { run with instances := run.instances.set place (some (i.withState left.state)) }
  match left.fault with
  | none => called
  | some _ => called.fail place (.handle i.detector.name node.loc.line)

/-- Settling adds no place. -/
lemma length_instances_settle (run : SharedRun) (place : Nat) (i : Instance) (node : Node)
    (left : Aftermath i.detector.State) :
    (run.settle place i node left).instances.length = run.instances.length := by
  unfold settle
  cases left.fault with
  | none => simp
  | some fault => simp [fail]

/-- Settling leaves the seats of other places alone. -/
lemma seat_settle_of_ne {place other : Nat} (run : SharedRun) (i : Instance) (node : Node)
    (left : Aftermath i.detector.State) (h : place ≠ other) :
    (run.settle place i node left).seat other = run.seat other := by
  unfold settle
  cases left.fault with
  | none => simp [seat, List.getElem?_set_ne h]
  | some fault => simp [seat, fail, List.getElem?_set_ne h, Ne.symm h]

/-- Settling seats what the handlers leave behind. -/
lemma seat_settle_self {run : SharedRun} {place : Nat} {i : Instance} (node : Node)
    (left : Aftermath i.detector.State) (h : run.standing place = some i) :
    (run.settle place i node left).seat place = i.seatAfter left := by
  obtain ⟨hstands, hi⟩ := standing_eq_some_iff.1 h
  have hlt : place < run.instances.length := (List.getElem?_eq_some_iff.1 hi).1
  unfold settle Instance.seatAfter
  cases left.fault with
  | none => simpa [seat, hlt] using hstands
  | some fault => simp [seat, fail, hlt]

/-- What happens in several calls is settled as if it had happened in one. -/
lemma settle_settle {run : SharedRun} {place : Nat} {i : Instance} {node : Node}
    {left : Aftermath i.detector.State} (h : left.fault = none)
    (later : Aftermath i.detector.State) :
    (run.settle place i node left).settle place (i.withState left.state) node later =
      run.settle place i node later := by
  simp [settle, h, Instance.withState]

/-- The callbacks of a detector that has failed do nothing. -/
lemma guarded_of_none {place : Nat} (handler : Nat) (node : Node) {run : SharedRun}
    (h : run.standing place = none) : guarded place handler node run = run := by
  unfold guarded
  split
  · rfl
  · rename_i hstands
    split
    · rename_i i hi
      rw [standing_eq_some_iff.2 ⟨by simpa using hstands, hi⟩] at h
      cases h
    · rfl

/-- A callback of a detector that stands calls its handler and settles what this leaves behind. -/
lemma guarded_of_some {place handler : Nat} {node : Node} {run : SharedRun} {i : Instance} {row}
    (h : run.standing place = some i) (hrow : i.table[handler]? = some row) :
    guarded place handler node run = run.settle place i node (row.2 i.state node) := by
  obtain ⟨hstands, hi⟩ := standing_eq_some_iff.1 h
  simp only [guarded, hstands, hi, Instance.call, hrow, settle]
  cases (row.2 i.state node).fault with
  | none => rfl
  | some fault => rfl

/-- Whatever a guarded callback does is settled at its place. -/
lemma guarded_cases (place handler : Nat) (node : Node) (run : SharedRun) :
    guarded place handler node run = run ∨
      ∃ i left, guarded place handler node run = run.settle place i node left := by
  cases h : run.standing place with
  | none => exact .inl (guarded_of_none handler node h)
  | some i =>
    cases hrow : i.table[handler]? with
    | some row => exact .inr ⟨i, _, guarded_of_some h hrow⟩
    | none =>
      obtain ⟨hstands, hi⟩ := standing_eq_some_iff.1 h
      refine .inr ⟨i, ⟨i.state, none⟩, ?_⟩
      simp only [guarded, hstands, hi, Instance.call, hrow, settle]
      rfl

/-- A guarded callback leaves the detectors at other places alone. -/
lemma seat_guarded_of_ne {place other : Nat} (handler : Nat) (node : Node) (run : SharedRun)
    (h : place ≠ other) : (guarded place handler node run).seat other = run.seat other := by
  rcases guarded_cases place handler node run with e | ⟨i, left, e⟩
  · rw [e]
  · rw [e, seat_settle_of_ne run i node left h]

/-- A guarded callback adds no place. -/
lemma length_instances_guarded (place handler : Nat) (node : Node) (run : SharedRun) :
    (guarded place handler node run).instances.length = run.instances.length := by
  rcases guarded_cases place handler node run with e | ⟨i, left, e⟩
  · rw [e]
  · rw [e, length_instances_settle]

/-- The callbacks of the detector at a place for these kinds, from a handler on. -/
def callbacksFrom (place start : Nat) (kinds : List String) : Registrations SharedRun :=
  (kinds.zipIdx start).map fun row => (row.1, guarded place row.2)

/-- The callback of the first kind comes before the others. -/
lemma callbacksFrom_cons (place start : Nat) (kind : String) (kinds : List String) :
    callbacksFrom place start (kind :: kinds) =
      (kind, guarded place start) :: callbacksFrom place (start + 1) kinds := by
  simp [callbacksFrom]

/-- All callbacks of a place are guarded ones of that place. -/
lemma exists_of_mem_callbacksFrom {place start : Nat} {kinds : List String} {row}
    (h : row ∈ callbacksFrom place start kinds) : ∃ handler, row.2 = guarded place handler := by
  obtain ⟨r, -, rfl⟩ := List.mem_map.1 h
  exact ⟨r.2, rfl⟩

/-- At a node, a detector that has failed does nothing. -/
lemma visitNode_callbacksFrom_of_none {place : Nat} (start : Nat) (kinds : List String)
    (node : Node) {run : SharedRun} (h : run.standing place = none) :
    Registrations.visitNode (callbacksFrom place start kinds) run node = run := by
  refine Registrations.visitNode_keeps (Q := fun r : SharedRun => r = run) ?_ rfl
  rintro row hrow r rfl
  obtain ⟨handler, hguarded⟩ := exists_of_mem_callbacksFrom hrow
  rw [hguarded]
  exact guarded_of_none handler node h

/-- The callbacks of a detector that stands do what its handlers do when it runs alone. -/
lemma visitNode_callbacksFrom_of_some {place : Nat} (kinds : List String) (start : Nat)
    (node : Node) (run : SharedRun) (i : Instance) (hkinds : i.kinds.drop start = kinds)
    (h : run.standing place = some i) :
    Registrations.visitNode (callbacksFrom place start kinds) run node =
      run.settle place i node (HandlerTable.atNode (i.table.drop start) i.state node) := by
  -- the callbacks are taken one by one; each has its handler at the start of the rest of the table
  induction kinds generalizing start run i with
  | nil =>
    have hnil : i.table.drop start = [] := by
      simpa [Instance.kinds, ← List.map_drop] using hkinds
    obtain ⟨-, hi⟩ := standing_eq_some_iff.1 h
    obtain ⟨hlt, hget⟩ := List.getElem?_eq_some_iff.1 hi
    rw [hnil]
    simp only [HandlerTable.atNode, settle, Instance.withState, ← hget, List.set_getElem_self]
    rfl
  | cons kind kinds ih =>
    obtain ⟨⟨kind', handler⟩, hrow, rfl, hrest⟩ := Instance.exists_of_drop_kinds hkinds
    obtain ⟨hlt, hget⟩ := List.getElem?_eq_some_iff.1 hrow
    rw [callbacksFrom_cons, List.drop_eq_getElem_cons hlt, hget]
    by_cases hk : kind' = node.kind
    · rw [Registrations.visitNode_cons_of_eq hk, guarded_of_some h hrow]
      subst hk
      have hseat := seat_settle_self node (handler i.state node) h
      have hstanding := standing_of_seat_eq_seatAfter hseat
      rcases hfault : (handler i.state node).fault with _ | fault
      · rw [HandlerTable.atNode_cons_of_none hfault]
        rw [Aftermath.survivor, hfault] at hstanding
        rw [ih _ _ (i.withState (handler i.state node).state) hrest hstanding]
        exact settle_settle hfault _
      · rw [HandlerTable.atNode_cons_of_some hfault]
        rw [Aftermath.survivor, hfault] at hstanding
        exact visitNode_callbacksFrom_of_none _ _ _ hstanding
    · rw [Registrations.visitNode_cons_of_ne hk, HandlerTable.atNode_cons_of_ne _ hk]
      exact ih _ _ i hrest h

end SharedRun

namespace Enrolment

open SharedRun

/-- The callbacks of a detector that is registered at a place. -/
def callbacksOf (place : Nat) (d : Detector) : Registrations SharedRun :=
  match Instance.ofDetector? d with
  | none => []
  | some i => callbacksFrom place 0 i.kinds

/-- The callbacks of detectors that are registered from a place on. -/
def callbacksOfAll (place : Nat) : List Detector → Registrations SharedRun
  | [] => []
  | d :: ds => callbacksOf place d ++ callbacksOfAll (place + 1) ds

/-- Enrolling a detector adds one place. -/
lemma length_instances_enrol (e : Enrolment) (d : Detector) :
    (e.enrol d).run.instances.length = e.run.instances.length + 1 := by
  unfold enrol
  cases h : Instance.ofDetector? d with
  | none => simp [fail]
  | some i => simp

/-- Registering the handlers of a table adds its callbacks behind the others. -/
lemma foldl_on_table {σ : Type} (place start : Nat) (table : HandlerTable σ)
    (rows : Registrations SharedRun) :
    (table.zipIdx start).foldl
        (fun visitor row => visitor.on row.1.1 (guarded place row.2))
        (Dispatcher.ofRegistrations rows) =
      Dispatcher.ofRegistrations (rows ++ callbacksFrom place start (table.map Prod.fst)) := by
  have hrows : callbacksFrom place start (table.map Prod.fst) =
      (table.zipIdx start).map fun row => (row.1.1, guarded place row.2) := by
    simp [callbacksFrom, List.zipIdx_map]
  rw [hrows, ← Dispatcher.foldl_on, List.foldl_map]

/-- Registering a detector adds its callbacks behind the others. -/
lemma visitor_enrol {e : Enrolment} {rows : Registrations SharedRun}
    (h : e.visitor = .ofRegistrations rows) (d : Detector) :
    (e.enrol d).visitor = .ofRegistrations (rows ++ callbacksOf e.run.instances.length d) := by
  unfold enrol callbacksOf
  cases Instance.ofDetector? d with
  | none => simp [h]
  | some i =>
    rw [h]
    exact foldl_on_table _ _ _ _

/-- Registering detectors adds their callbacks in their order. -/
lemma visitor_foldl_enrol (ds : List Detector) {e : Enrolment} {rows : Registrations SharedRun}
    (h : e.visitor = .ofRegistrations rows) :
    (ds.foldl enrol e).visitor =
      .ofRegistrations (rows ++ callbacksOfAll e.run.instances.length ds) := by
  induction ds generalizing e rows with
  | nil => simp [callbacksOfAll, h]
  | cons d ds ih =>
    rw [List.foldl_cons, ih (visitor_enrol h d), length_instances_enrol, callbacksOfAll,
      List.append_assoc]

/-- The walk of a shared run calls the callbacks of its detectors. -/
lemma visitNode_enrolled (ds : List Detector) :
    (ds.foldl enrol empty).visitor.visitNode = (callbacksOfAll 0 ds).visitNode := by
  have hempty : empty.visitor = .ofRegistrations [] := rfl
  rw [visitor_foldl_enrol ds hempty, Dispatcher.visitNode_ofRegistrations]
  rfl

/-- Registering a detector leaves the detectors at earlier places alone. -/
lemma standing_enrol_of_lt {e : Enrolment} (d : Detector) {place : Nat}
    (h : place < e.run.instances.length) :
    (e.enrol d).run.standing place = e.run.standing place := by
  unfold enrol
  cases Instance.ofDetector? d with
  | none => simp [fail, standing, List.getElem?_append_left h, Nat.ne_of_lt h]
  | some i => simp [standing, List.getElem?_append_left h]

/-- Only detectors that are registered have failed. -/
def FailedRegistered (e : Enrolment) : Prop :=
  ∀ place ∈ e.run.failed, place < e.run.instances.length

/-- Registering a detector can make this detector fail and no other. -/
lemma FailedRegistered.enrol {e : Enrolment} (h : e.FailedRegistered) (d : Detector) :
    (e.enrol d).FailedRegistered := by
  intro place hplace
  rw [length_instances_enrol]
  unfold Enrolment.enrol at hplace
  cases hd : Instance.ofDetector? d with
  | none =>
    simp only [hd, fail, List.mem_cons] at hplace
    rcases hplace with rfl | hplace
    · exact Nat.lt_succ_self _
    · exact Nat.lt_succ_of_lt (h place hplace)
  | some i =>
    simp only [hd] at hplace
    exact Nat.lt_succ_of_lt (h place hplace)

/-- A detector stands at its place if it can be registered. -/
lemma standing_enrol_self {e : Enrolment} (h : e.FailedRegistered) (d : Detector) :
    (e.enrol d).run.standing e.run.instances.length = Instance.ofDetector? d := by
  -- a place that is not taken yet cannot have been marked as failed
  have hnew : e.run.instances.length ∉ e.run.failed := fun hmem => Nat.lt_irrefl _ (h _ hmem)
  unfold enrol
  cases hd : Instance.ofDetector? d with
  | none => simp [fail, standing]
  | some i => simp [standing, hnew]

/-- Enrolling more detectors leaves the earlier places alone. -/
lemma standing_foldl_enrol_of_lt (ds : List Detector) {e : Enrolment} {place : Nat}
    (h : place < e.run.instances.length) :
    (ds.foldl enrol e).run.standing place = e.run.standing place := by
  induction ds generalizing e with
  | nil => rfl
  | cons d ds ih =>
    have h' : place < (e.enrol d).run.instances.length := by
      rw [length_instances_enrol]
      exact Nat.lt_succ_of_lt h
    exact (ih h').trans (standing_enrol_of_lt d h)

/-- Every detector stands at its place if it can be registered. -/
lemma standing_foldl_enrol {ds : List Detector} {e : Enrolment} (h : e.FailedRegistered) {k : Nat}
    {d : Detector} (hd : ds[k]? = some d) :
    (ds.foldl enrol e).run.standing (e.run.instances.length + k) = Instance.ofDetector? d := by
  induction ds generalizing e k with
  | nil => simp at hd
  | cons d' ds ih =>
    rw [List.foldl_cons]
    cases k with
    | zero =>
      obtain rfl : d' = d := by simpa using hd
      have hlt : e.run.instances.length < (e.enrol d').run.instances.length := by
        rw [length_instances_enrol]
        exact Nat.lt_succ_self _
      exact (standing_foldl_enrol_of_lt ds hlt).trans (standing_enrol_self h d')
    | succ k =>
      have hstep := ih (h.enrol d') (k := k) (by simpa using hd)
      rw [length_instances_enrol, Nat.add_right_comm] at hstep
      exact hstep

/-- Enrolling detectors adds one place for each. -/
lemma length_instances_foldl_enrol (ds : List Detector) (e : Enrolment) :
    (ds.foldl enrol e).run.instances.length = e.run.instances.length + ds.length := by
  induction ds generalizing e with
  | nil => rfl
  | cons d ds ih =>
    rw [List.foldl_cons, ih, length_instances_enrol, List.length_cons, Nat.add_right_comm,
      Nat.add_assoc]

/-- All callbacks of a detector are guarded ones of its place. -/
lemma exists_of_mem_callbacksOf {place : Nat} {d : Detector} {row} (h : row ∈ callbacksOf place d) :
    ∃ handler, row.2 = guarded place handler := by
  rw [callbacksOf] at h
  split at h
  · cases h
  · exact exists_of_mem_callbacksFrom h

/-- The callbacks of detectors are guarded ones of their places. -/
lemma exists_of_mem_callbacksOfAll {start : Nat} {ds : List Detector} {row}
    (h : row ∈ callbacksOfAll start ds) :
    ∃ place handler, start ≤ place ∧ row.2 = guarded place handler := by
  induction ds generalizing start with
  | nil => cases h
  | cons d ds ih =>
    rcases List.mem_append.1 h with h | h
    · obtain ⟨handler, hguarded⟩ := exists_of_mem_callbacksOf h
      exact ⟨start, handler, Nat.le_refl _, hguarded⟩
    · obtain ⟨place, handler, hle, hguarded⟩ := ih h
      exact ⟨place, handler, Nat.le_of_succ_le hle, hguarded⟩

/-- At a node, callbacks of other places leave a seat alone. -/
lemma seat_visitNode_of_ne {rows : Registrations SharedRun} {other : Nat}
    (h : ∀ row ∈ rows, ∃ place handler, place ≠ other ∧ row.2 = guarded place handler)
    (node : Node) (run : SharedRun) :
    (rows.visitNode run node).seat other = run.seat other := by
  refine Registrations.visitNode_keeps (Q := fun r : SharedRun => r.seat other = run.seat other)
    ?_ rfl
  intro row hrow r hr
  obtain ⟨place, handler, hne, hguarded⟩ := h row hrow
  rw [hguarded, seat_guarded_of_ne handler node r hne, hr]

/-- At a node, a detector leaves those at other places alone. -/
lemma seat_callbacksOf_of_ne (d : Detector) {place other : Nat} (node : Node) (run : SharedRun)
    (h : place ≠ other) :
    (Registrations.visitNode (callbacksOf place d) run node).seat other = run.seat other := by
  apply seat_visitNode_of_ne
  intro row hrow
  obtain ⟨handler, hguarded⟩ := exists_of_mem_callbacksOf hrow
  exact ⟨place, handler, h, hguarded⟩

/-- At a node, detectors that are registered from a place on leave those before it alone. -/
lemma seat_callbacksOfAll_of_lt (ds : List Detector) {place start : Nat} (node : Node)
    (run : SharedRun) (h : place < start) :
    (Registrations.visitNode (callbacksOfAll start ds) run node).seat place = run.seat place := by
  apply seat_visitNode_of_ne
  intro row hrow
  obtain ⟨later, handler, hle, hguarded⟩ := exists_of_mem_callbacksOfAll hrow
  exact ⟨later, handler, Nat.ne_of_gt (Nat.lt_of_lt_of_le h hle), hguarded⟩

/-- The callbacks of a detector that does not stand do nothing at a node. -/
lemma visitNode_callbacksOf_of_none (d : Detector) {place : Nat} (node : Node) {run : SharedRun}
    (h : run.standing place = none) :
    Registrations.visitNode (callbacksOf place d) run node = run := by
  unfold callbacksOf
  cases Instance.ofDetector? d with
  | none => rfl
  | some i => exact visitNode_callbacksFrom_of_none _ _ _ h

/-- The callbacks of a detector that stands call its handlers as it would alone. -/
lemma visitNode_callbacksOf_of_some {d : Detector} {place : Nat} {i i₀ : Instance} (node : Node)
    {run : SharedRun} (hi₀ : Instance.ofDetector? d = some i₀) (hkinds : i.kinds = i₀.kinds)
    (h : run.standing place = some i) :
    Registrations.visitNode (callbacksOf place d) run node =
      run.settle place i node (i.table.atNode i.state node) := by
  rw [callbacksOf, hi₀]
  exact visitNode_callbacksFrom_of_some _ 0 node run i hkinds h

/-- At a node, a detector that stands does what it does when it runs alone. -/
lemma seat_callbacksOfAll {ds : List Detector} {start k : Nat} {d : Detector} {i i₀ : Instance}
    (node : Node) (run : SharedRun) (hd : ds[k]? = some d) (hi₀ : Instance.ofDetector? d = some i₀)
    (hkinds : i.kinds = i₀.kinds) (h : run.standing (start + k) = some i) :
    (Registrations.visitNode (callbacksOfAll start ds) run node).seat (start + k) =
      i.seatAfter (i.table.atNode i.state node) := by
  induction ds generalizing start run k with
  | nil => simp at hd
  | cons d' ds ih =>
    rw [callbacksOfAll, Registrations.visitNode_append]
    cases k with
    | zero =>
      -- this detector comes first: what follows belongs to later places
      obtain rfl : d' = d := by simpa using hd
      rw [Nat.add_zero] at h ⊢
      refine (seat_callbacksOfAll_of_lt _ _ _ (Nat.lt_succ_self start)).trans ?_
      rw [visitNode_callbacksOf_of_some node hi₀ hkinds h]
      exact seat_settle_self node _ h
    | succ k =>
      have hplace : start + (k + 1) = start + 1 + k := by omega
      rw [hplace] at h ⊢
      refine ih _ (by simpa using hd) ?_
      exact (standing_eq_of_seat_eq (seat_callbacksOf_of_ne d' node run (by omega))).trans h

/-- What every guarded callback keeps, a walk keeps. -/
lemma walk_keeps {Q : SharedRun → Prop}
    (h : ∀ place handler node run, Q run → Q (guarded place handler node run))
    (ds : List Detector) (nodes : List Node) {run : SharedRun} (hrun : Q run) :
    Q (nodes.foldl (callbacksOfAll 0 ds).visitNode run) := by
  induction nodes generalizing run with
  | nil => exact hrun
  | cons node nodes ih =>
    refine ih (Registrations.visitNode_keeps ?_ hrun)
    intro row hrow r hr
    obtain ⟨place, handler, -, hguarded⟩ := exists_of_mem_callbacksOfAll hrow
    rw [hguarded]
    exact h place handler node r hr

/-- Along a walk, a detector that has failed is left as it is. -/
lemma seat_walk_of_none (ds : List Detector) {place : Nat} (nodes : List Node) {run : SharedRun}
    (h : run.standing place = none) :
    (nodes.foldl (callbacksOfAll 0 ds).visitNode run).seat place = run.seat place := by
  refine walk_keeps (Q := fun r => r.seat place = run.seat place) ?_ ds nodes rfl
  intro other handler node r hr
  by_cases hne : other = place
  · subst hne
    rw [guarded_of_none handler node ((standing_eq_of_seat_eq hr).trans h), hr]
  · rw [seat_guarded_of_ne handler node r hne, hr]

/-- Along a walk, a detector that stands does what it does when it runs alone. -/
lemma seat_walk {ds : List Detector} {k : Nat} {d : Detector} {i i₀ : Instance}
    (nodes : List Node) (run : SharedRun) (hd : ds[k]? = some d)
    (hi₀ : Instance.ofDetector? d = some i₀) (hkinds : i.kinds = i₀.kinds)
    (h : run.standing k = some i) :
    (nodes.foldl (callbacksOfAll 0 ds).visitNode run).seat k =
      i.seatAfter (i.table.overNodes i.state nodes) := by
  induction nodes generalizing run i with
  | nil =>
    obtain ⟨hstands, hi⟩ := standing_eq_some_iff.1 h
    rw [List.foldl_nil, seat, hstands, hi]
    rfl
  | cons node nodes ih =>
    have hseat : (Registrations.visitNode (callbacksOfAll 0 ds) run node).seat k =
        i.seatAfter (i.table.atNode i.state node) := by
      have hstart : run.standing (0 + k) = some i := by simpa using h
      simpa using seat_callbacksOfAll node run hd hi₀ hkinds hstart
    have hstanding := standing_of_seat_eq_seatAfter hseat
    rw [List.foldl_cons, HandlerTable.overNodes]
    rcases e : i.table.atNode i.state node with ⟨s, _ | fault⟩
    · -- the table of an instance never changes, so its callbacks fit it at every node
      rw [e] at hstanding
      exact ih _ (i := i.withState s) hkinds hstanding
    · rw [e] at hstanding hseat
      exact (seat_walk_of_none ds nodes hstanding).trans hseat

/-- After enrolment every detector stands that could be registered. -/
lemma standing_enrolled {ds : List Detector} {k : Nat} {d : Detector} (hd : ds[k]? = some d) :
    (ds.foldl enrol empty).run.standing k = Instance.ofDetector? d := by
  have hempty : empty.FailedRegistered := by
    intro place hplace
    cases hplace
  simpa [empty, SharedRun.empty] using standing_foldl_enrol hempty hd

/-- After nodes of a shared walk, the run holds of every detector what the detector is after its own
walk over them. -/
lemma standing_walk {ds : List Detector} {k : Nat} {d : Detector} (nodes : List Node)
    (hd : ds[k]? = some d) :
    (nodes.foldl (callbacksOfAll 0 ds).visitNode (ds.foldl enrol empty).run).standing k =
      (Instance.ofDetector? d).bind fun i => i.afterNodes nodes := by
  have hstart := standing_enrolled hd
  rcases e : Instance.ofDetector? d with _ | i
  · have hnone := hstart.trans e
    exact (standing_eq_of_seat_eq (seat_walk_of_none ds nodes hnone)).trans hnone
  · exact standing_of_seat_eq_seatAfter (seat_walk nodes _ hd e rfl (hstart.trans e))

/-- A walk adds no place. -/
lemma length_instances_walk (ds : List Detector) (nodes : List Node) (run : SharedRun) :
    (nodes.foldl (callbacksOfAll 0 ds).visitNode run).instances.length =
      run.instances.length := by
  refine walk_keeps (Q := fun r => r.instances.length = run.instances.length) ?_ ds nodes rfl
  intro place handler node r hr
  rw [length_instances_guarded, hr]

end Enrolment

/-- A place ends with what the detector that stands there ends with. -/
lemma SharedRun.finishAt_eq {run : SharedRun} {i : Option Instance} {place : Nat}
    (h : run.instances[place]? = some i) :
    run.finishAt i place = (run.standing place).elim ([], []) Instance.ended := by
  by_cases hfailed : place ∈ run.failed
  · cases i with
    | none => simp [finishAt, standing, hfailed]
    | some i => simp [finishAt, standing, hfailed]
  · cases i with
    | none => simp [finishAt, standing, hfailed, h]
    | some i =>
      have hstands : run.standing place = some i := by simp [standing, hfailed, h]
      rw [hstands]
      exact if_neg (by simpa using hfailed)

/-- A run ends with what the detectors that stand end with, place by place. -/
lemma SharedRun.finish_eq {run : SharedRun} {ds : List Detector}
    {ended : Detector → List Finding × List FaultRecord}
    (hlength : run.instances.length = ds.length)
    (hstanding : ∀ (k : Nat) (d : Detector), ds[k]? = some d →
      (run.standing k).elim ([], []) Instance.ended = ended d) :
    run.finish =
      (ds.flatMap fun d => (ended d).1, run.records ++ ds.flatMap fun d => (ended d).2) := by
  have hplaces : run.instances.zipIdx.map (fun row => run.finishAt row.1 row.2) =
      ds.map ended := by
    apply List.ext_getElem
    · simp [hlength]
    · intro k hk hkd
      simp only [List.getElem_map, List.getElem_zipIdx, Nat.zero_add]
      rw [finishAt_eq (List.getElem?_eq_getElem _)]
      exact hstanding k _ (List.getElem?_eq_getElem _)
  simp only [finish, hplaces, List.flatMap_map]

/-- What a detector ends with on its own way over a tree; nothing if it fails on the way. -/
def Detector.endedOver (d : Detector) (root : Node) : List Finding × List FaultRecord :=
  ((Instance.ofDetector? d).bind fun i => i.afterNodes root.walk).elim ([], []) Instance.ended

/-- A shared run ends with what the detectors end with on their own ways. -/
lemma runDetectors_eq (root : Node) (ds : List Detector) :
    runDetectors root ds =
      (ds.flatMap fun d => (d.endedOver root).1,
        ((ds.foldl Enrolment.enrol .empty).visitor.run root
          (ds.foldl Enrolment.enrol .empty).run).records ++
            ds.flatMap fun d => (d.endedOver root).2) := by
  refine SharedRun.finish_eq ?_ fun k d hd => ?_
  · rw [Dispatcher.run, Enrolment.visitNode_enrolled, Enrolment.length_instances_walk,
      Enrolment.length_instances_foldl_enrol]
    exact Nat.zero_add _
  · rw [Dispatcher.run, Enrolment.visitNode_enrolled, Enrolment.standing_walk _ hd]
    rfl

/-- What a detector finds on its own way over a tree; nothing if it fails on the way. -/
def Detector.foundOver (d : Detector) (root : Node) : List Finding :=
  ((Instance.ofDetector? d).bind fun i => i.afterNodes root.walk).elim [] Instance.found

/-- What a detector ends with alone are its findings. -/
lemma Detector.fst_endedOver (d : Detector) (root : Node) :
    (d.endedOver root).1 = d.foundOver root := by
  unfold endedOver foundOver
  cases (Instance.ofDetector? d).bind fun i => i.afterNodes root.walk with
  | none => rfl
  | some i => exact i.fst_ended

/-- The findings of a shared run are those that the detectors make on their own ways. -/
lemma fst_runDetectors (root : Node) (ds : List Detector) :
    (runDetectors root ds).1 = ds.flatMap fun d => d.foundOver root := by
  simp only [runDetectors_eq, Detector.fst_endedOver]

/-- A lone run registers the detector, goes over the nodes and asks for the findings. -/
lemma Detector.foundOver_eq (d : Detector) (root : Node) :
    d.foundOver root =
      match d.detect root with
      | .ok found => found
      | .error _ => [] := by
  unfold foundOver detect Instance.ofDetector?
  rcases d.register with e | ⟨s, table⟩
  · rfl
  · simp only [Option.bind_some, Instance.afterNodes]
    rcases table.overNodes s root.walk with ⟨s', _ | e⟩
    · rfl
    · rfl

/-- One shared walk finds what the detectors find one by one, each made anew and alone on the tree:
their findings in their order, where a detector that fails alone contributes nothing. -/
theorem runDetectors_findings (root : Node) (ds : List Detector) :
    (runDetectors root ds).1 =
      ds.flatMap fun d =>
        match d.detect root with
        | .ok found => found
        | .error _ => [] := by
  rw [fst_runDetectors]
  congr 1
  funext d
  exact d.foundOver_eq root

end ContractAudit
