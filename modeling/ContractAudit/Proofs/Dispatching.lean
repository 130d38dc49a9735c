import ContractAudit.Proofs.Isolation
import ContractAudit.Proofs.Tables
import ContractAudit.Proofs.Traversal

/-!
# Dispatch along a walk

A walk goes through a tree by the paths that lead to its nodes, in lexicographic order: each node
once, a node before what is below it, and an earlier child with everything below it before a later
one. Callbacks are called along the walk, at each node those that were registered for its kind. The
main statement is `dispatch_in_preorder`.
-/

namespace ContractAudit

universe u

namespace Node

/-! ## The order of a walk -/

mutual

/-- The paths that lead from a node to the nodes of its tree, in the order of the walk. -/
def paths : Node → List (List Nat)
  | mk _ _ _ children _ => [] :: pathsFrom 0 children

/-- The paths through children of a node, the first of which is at the position `start`. -/
def pathsFrom (start : Nat) : List Node → List (List Nat)
  | [] => []
  | n :: rest => n.paths.map (start :: ·) ++ pathsFrom (start + 1) rest

end

mutual

/-- The paths of a node are those that lead somewhere. -/
theorem mem_paths {path : List Nat} :
    (n : Node) → (path ∈ n.paths ↔ (n.descend path).isSome = true)
  | mk kind loc text children detail => by
    rw [paths, List.mem_cons, mem_pathsFrom children]
    cases path with
    | nil => simp [descend]
    | cons i rest =>
      rw [descend_cons, Node.children, Option.isSome_bind, Option.any_eq_true]
      constructor
      · rintro (hpath | ⟨j, rest', hpath, n, hn, hrest⟩)
        · cases hpath
        · obtain ⟨rfl, rfl⟩ := List.cons.inj hpath
          rw [Nat.zero_add]
          exact ⟨n, hn, hrest⟩
      · rintro ⟨n, hn, hrest⟩
        exact .inr ⟨i, rest, by rw [Nat.zero_add], n, hn, hrest⟩

/-- The paths through some children are those that lead to a node below one of them. -/
theorem mem_pathsFrom {start : Nat} {path : List Nat} : (ns : List Node) →
    (path ∈ pathsFrom start ns ↔ ∃ i rest, path = (start + i) :: rest ∧
      ∃ n, ns[i]? = some n ∧ (n.descend rest).isSome = true)
  | [] => by simp [pathsFrom]
  | n :: ns => by
    rw [pathsFrom, List.mem_append, List.mem_map, mem_pathsFrom ns]
    constructor
    · rintro (⟨rest, hrest, rfl⟩ | ⟨i, rest, rfl, m, hm, hrest⟩)
      · exact ⟨0, rest, rfl, n, rfl, (mem_paths n).1 hrest⟩
      · exact ⟨i + 1, rest, by rw [Nat.add_right_comm, Nat.add_assoc], m, hm, hrest⟩
    · rintro ⟨i, rest, rfl, m, hm, hrest⟩
      cases i with
      | zero =>
        obtain rfl := Option.some.inj hm
        exact .inl ⟨rest, (mem_paths n).2 hrest, rfl⟩
      | succ i =>
        exact .inr ⟨i, rest, by rw [Nat.add_right_comm, Nat.add_assoc], m, hm, hrest⟩

end

mutual

/-- The paths lead to the nodes of the recursion over the tree, in the same order. -/
theorem map_descend_paths : (n : Node) → n.paths.map n.descend = n.preorder.map some
  | mk kind loc text children detail => by
    rw [paths, preorder, List.map_cons, List.map_cons,
      map_descend_pathsFrom (mk kind loc text children detail) children rfl]
    rfl

/-- The paths through some children lead to their nodes in preorder. -/
theorem map_descend_pathsFrom (parent : Node) {start : Nat} : (ns : List Node) →
    parent.children.drop start = ns →
      (pathsFrom start ns).map parent.descend = (preorders ns).map some
  | [], _ => rfl
  | n :: ns, h => by
    have hfirst : parent.children[start]? = some n := by
      rw [← List.head?_drop, h]
      rfl
    have hrest : parent.children.drop (start + 1) = ns := by
      rw [← List.tail_drop, h]
      rfl
    have hbelow : (n.paths.map (start :: ·)).map parent.descend = n.preorder.map some := by
      rw [List.map_map, ← map_descend_paths n]
      apply List.map_congr_left
      intro path _
      rw [Function.comp_apply, descend_cons, hfirst]
      rfl
    rw [pathsFrom, preorders, List.map_append, List.map_append, hbelow,
      map_descend_pathsFrom parent ns hrest]

end

mutual

/-- Paths are in lexicographic order, none of them twice. -/
theorem pairwise_paths : (n : Node) → n.paths.Pairwise (List.Lex (· < ·))
  | mk kind loc text children detail => by
    rw [paths, List.pairwise_cons]
    refine ⟨fun path hpath => ?_, pairwise_pathsFrom children⟩
    -- a node comes before everything below it, as its path is the empty one
    obtain ⟨i, rest, rfl, -⟩ := (mem_pathsFrom children).1 hpath
    exact .nil

/-- The same of the paths through some children. -/
theorem pairwise_pathsFrom {start : Nat} : (ns : List Node) →
    (pathsFrom start ns).Pairwise (List.Lex (· < ·))
  | [] => .nil
  | n :: ns => by
    rw [pathsFrom, List.pairwise_append]
    refine ⟨?_, pairwise_pathsFrom ns, ?_⟩
    · rw [List.pairwise_map]
      exact (pairwise_paths n).imp .cons
    · -- the two paths part at once, and the first goes on through the earlier child
      intro path hpath later hlater
      obtain ⟨rest, -, rfl⟩ := List.mem_map.1 hpath
      obtain ⟨i, rest', rfl, -⟩ := (mem_pathsFrom ns).1 hlater
      exact .rel (by omega)

end

/-- A list goes through the nodes of a tree by the paths that lead to them: every path once, a path
before those that go on from it, and paths through an earlier child before those through a later
one. -/
def InOrder (root : Node) (nodes : List Node) : Prop :=
  ∃ paths : List (List Nat), paths.Pairwise (List.Lex (· < ·)) ∧
    (∀ path, path ∈ paths ↔ (root.descend path).isSome = true) ∧
    paths.map root.descend = nodes.map some

/-- The preorder goes through a tree by its paths. -/
lemma inOrder_preorder (root : Node) : root.InOrder root.preorder :=
  ⟨root.paths, pairwise_paths root, fun _ => mem_paths root, map_descend_paths root⟩

end Node

/-! ## Calls -/

/-- What is to be called at some nodes: node after node, what is registered for its kind, in the
order of registration. -/
def dueCalls {β : Type u} (rows : List (String × β)) (nodes : List Node) : List (β × Node) :=
  nodes.flatMap fun n => (rows.filter fun row => row.1 == n.kind).map fun row => (row.2, n)

/-- The calls at the first node come before those at the others. -/
lemma dueCalls_cons {β : Type u} (rows : List (String × β)) (n : Node) (nodes : List Node) :
    dueCalls rows (n :: nodes) = dueCalls rows [n] ++ dueCalls rows nodes := by
  simp [dueCalls]

namespace Dispatcher

variable {σ : Type u}

/-- Makes calls one after the other. -/
def perform (calls : List ((Node → σ → σ) × Node)) (s : σ) : σ :=
  calls.foldl (fun s call => call.1 call.2 s) s

/-- Calls are made one after the other. -/
lemma perform_append (a b : List ((Node → σ → σ) × Node)) (s : σ) :
    perform (a ++ b) s = perform b (perform a s) :=
  List.foldl_append

/-- At a node, a dispatcher makes the calls that are due there. -/
lemma visitNode_eq_perform (rows : Registrations σ) (s : σ) (n : Node) :
    (ofRegistrations rows).visitNode s n = perform (dueCalls rows [n]) s := by
  rw [visitNode_ofRegistrations]
  simp [Registrations.visitNode, perform, dueCalls, List.foldl_map]

/-- What is done node by node is done call by call. -/
lemma foldl_eq_perform {rows : List (String × (Node → σ → σ))} {atNode : σ → Node → σ}
    (h : ∀ s n, atNode s n = perform (dueCalls rows [n]) s) (nodes : List Node) (s : σ) :
    nodes.foldl atNode s = perform (dueCalls rows nodes) s := by
  induction nodes generalizing s with
  | nil => rfl
  | cons n nodes ih => rw [List.foldl_cons, ih, h, dueCalls_cons rows n nodes, perform_append]

/-- A run makes all calls that are due. -/
lemma run_ofRegistrations (rows : List (String × (Node → σ → σ))) (root : Node) (s : σ) :
    (ofRegistrations rows).run root s = perform (dueCalls rows root.preorder) s := by
  rw [run, Node.walk_eq_preorder]
  exact foldl_eq_perform (visitNode_eq_perform rows) root.preorder s

end Dispatcher

/-- One handler for each kind is called where it is due. -/
lemma visit_eq_perform {σ : Type u} {handlers : List (String × (Node → σ → σ))}
    (h : (handlers.map Prod.fst).Nodup) (root : Node) (s : σ) :
    visit handlers root s = Dispatcher.perform (dueCalls handlers root.preorder) s := by
  rw [visit, Node.walk_eq_preorder]
  apply Dispatcher.foldl_eq_perform
  intro s n
  have hdue : dueCalls handlers [n] =
      ((handlers.find? fun row => row.1 == n.kind).toList.map fun row => (row.2, n)) := by
    rw [← filter_eq_toList_find? h n.kind]
    simp [dueCalls]
  rw [hdue]
  cases handlers.find? fun row => row.1 == n.kind with
  | none => rfl
  | some row => rfl

namespace HandlerTable

variable {σ : Type}

/-- Makes calls one after the other, up to the first that fails. -/
def perform (s : σ) : List (Handler σ × Node) → Aftermath σ
  | [] => ⟨s, none⟩
  | call :: rest =>
    match call.1 s call.2 with
    | ⟨s', none⟩ => perform s' rest
    | ⟨s', some e⟩ => ⟨s', some e⟩

/-- Further calls are made only if none has failed so far. -/
lemma perform_append (s : σ) (a b : List (Handler σ × Node)) :
    perform s (a ++ b) =
      match perform s a with
      | ⟨s', none⟩ => perform s' b
      | ⟨s', some e⟩ => ⟨s', some e⟩ := by
  induction a generalizing s with
  | nil => rfl
  | cons call a ih =>
    simp only [List.cons_append, perform]
    rcases call.1 s call.2 with ⟨s', _ | e⟩
    · exact ih s'
    · rfl

/-- At a node, a table of handlers makes the calls that are due there. -/
lemma atNode_eq_perform (table : HandlerTable σ) (s : σ) (n : Node) :
    table.atNode s n = perform s (dueCalls table [n]) := by
  induction table generalizing s with
  | nil => rfl
  | cons row table ih =>
    have hrest : dueCalls table [n] =
        (table.filter fun row => row.1 == n.kind).map fun row => (row.2, n) := by
      simp [dueCalls]
    rw [hrest] at ih
    rcases row with ⟨kind, handler⟩
    by_cases hkind : kind = n.kind
    · simp only [atNode, dueCalls, hkind, beq_self_eq_true, if_true, List.flatMap_singleton,
        List.filter_cons_of_pos, List.map_cons, perform]
      rcases handler s n with ⟨s', _ | e⟩
      · exact ih s'
      · rfl
    · simp [atNode, dueCalls, hkind, ih]

/-- Over nodes, a table of handlers makes the calls that are due at them. -/
lemma overNodes_eq_perform (table : HandlerTable σ) (s : σ) (nodes : List Node) :
    table.overNodes s nodes = perform s (dueCalls table nodes) := by
  induction nodes generalizing s with
  | nil => rfl
  | cons n nodes ih =>
    rw [dueCalls_cons table n nodes, perform_append, ← atNode_eq_perform, overNodes]
    rcases table.atNode s n with ⟨s', _ | e⟩
    · exact ih s'
    · rfl

end HandlerTable

/-- A walk ends after as many rounds as there are nodes, is the recursion over the tree, and goes
through the tree in the order of paths. A dispatcher makes exactly the calls that are due along it;
so do handlers that can fail, up to the first that does; and with one handler for each kind, a visit
is the run of a dispatcher on which each handler was registered once. -/
theorem dispatch_in_preorder (root : Node) :
    (root.walk = root.preorder ∧ root.walk.length = root.size ∧ root.InOrder root.walk) ∧
    (∀ {σ : Type u} (rows : List (String × (Node → σ → σ))) (s : σ),
      (Dispatcher.ofRegistrations rows).run root s =
        Dispatcher.perform (dueCalls rows root.preorder) s) ∧
    (∀ {σ : Type} (table : HandlerTable σ) (s : σ),
      table.overNodes s root.walk = HandlerTable.perform s (dueCalls table root.preorder)) ∧
    ∀ {σ : Type u} (handlers : List (String × (Node → σ → σ))), (handlers.map Prod.fst).Nodup →
      ∀ s, visit handlers root s = (Dispatcher.ofRegistrations handlers).run root s := by
  refine ⟨?_, fun rows s => Dispatcher.run_ofRegistrations rows root s, ?_, ?_⟩
  · rw [Node.walk_eq_preorder]
    exact ⟨rfl, root.length_preorder, root.inOrder_preorder⟩
  · intro σ table s
    rw [Node.walk_eq_preorder]
    exact table.overNodes_eq_perform s root.preorder
  · intro σ handlers hkinds s
    rw [visit_eq_perform hkinds, Dispatcher.run_ofRegistrations]

/-- The call of `f` with the call of `g` between two names. -/
def nestedCalls : Node :=
  let name (text : String) : Node := .mk Kind.identifier ⟨1, 0⟩ text [] .plain
  .mk Kind.call ⟨1, 0⟩ "f(g(),a)"
    [name "f", .mk Kind.call ⟨1, 2⟩ "g()" [name "g"] .plain, name "a"] .plain

/-- Notes which callback was called with which text. -/
def noteCall (callback : Nat) (n : Node) (seen : List (Nat × String)) : List (Nat × String) :=
  seen ++ [(callback, n.text)]

/-- Names are noted between the calls, and with two callbacks for calls each call is noted twice. -/
theorem dispatch_in_preorder_nestedCalls :
    let handlers := [(Kind.call, noteCall 0), (Kind.identifier, noteCall 1)]
    (handlers.map Prod.fst).Nodup ∧
      visit handlers nestedCalls [] =
        [(0, "f(g(),a)"), (1, "f"), (0, "g()"), (1, "g"), (1, "a")] ∧
      (Dispatcher.ofRegistrations [(Kind.call, noteCall 0), (Kind.loop, noteCall 1),
        (Kind.call, noteCall 2)]).run nestedCalls [] =
        [(0, "f(g(),a)"), (2, "f(g(),a)"), (0, "g()"), (2, "g()")] := by
  obtain ⟨-, hrun, -, hvisit⟩ := dispatch_in_preorder nestedCalls
  have hkinds : ([(Kind.call, noteCall 0), (Kind.identifier, noteCall 1)].map Prod.fst).Nodup := by
    decide
  refine ⟨hkinds, ?_, ?_⟩
  · rw [hvisit _ hkinds, hrun]
    decide
  · rw [hrun]
    decide

end ContractAudit
