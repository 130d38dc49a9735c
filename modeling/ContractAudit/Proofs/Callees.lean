import ContractAudit.Proofs.Consistency
import Mathlib.Logic.Relation

/-!
# Callees under wrappers and call options

The function that a call names may stand under any nest of wrappers and call options. One layer of
such a nest is `Wraps`, and a node without a layer is bare. Taking off layers ends, it ends at one
bare node only, and what that node is decides the name. The main statement is
`callee_through_wrappers`.
-/

namespace ContractAudit.Node

/-! ## Layers -/

/-- A node is a layer around another one: a wrapper around its only child, or call options whose
first child is the function. -/
inductive Wraps (outer inner : Node) : Prop where
  | transparent (kind : isTransparent outer.kind = true) (child : outer.children = [inner])
  | options {more : List Node} (kind : outer.kind = optionsKind)
      (children : outer.children = inner :: more)

/-- A node has no layer to take off. -/
def Bare (n : Node) : Prop :=
  ∀ m, ¬ n.Wraps m

/-- Layers are what the search for the function takes off. -/
lemma wraps_iff {n m : Node} : n.Wraps m ↔ ∃ more, n.children = m :: more ∧
    ((isTransparent n.kind && more.isEmpty) || n.kind == optionsKind) = true := by
  constructor
  · rintro (⟨hkind, hchild⟩ | ⟨hkind, hchildren⟩)
    · exact ⟨[], hchild, by simp [hkind]⟩
    · exact ⟨_, hchildren, by simp [hkind]⟩
  · rintro ⟨more, hchildren, hlayer⟩
    rcases Bool.or_eq_true_iff.1 hlayer with h | h
    · obtain ⟨hkind, hmore⟩ := Bool.and_eq_true_iff.1 h
      rw [List.isEmpty_iff.1 hmore] at hchildren
      exact .transparent hkind hchildren
    · exact .options (eq_of_beq h) hchildren

/-- Taking off a layer leaves the node that names the function. -/
lemma Wraps.calleeNode_eq {n m : Node} (h : n.Wraps m) : n.calleeNode = m.calleeNode := by
  obtain ⟨more, hchildren, hlayer⟩ := wraps_iff.1 h
  rcases n with ⟨kind, loc, text, children, detail⟩
  obtain rfl : children = m :: more := hchildren
  exact if_pos hlayer

/-- A bare node names the function itself. -/
lemma Bare.calleeNode_eq {n : Node} (h : n.Bare) : n.calleeNode = n := by
  rcases n with ⟨kind, loc, text, _ | ⟨child, more⟩, detail⟩
  · rfl
  · exact if_neg fun hlayer => h child (wraps_iff.2 ⟨more, rfl, hlayer⟩)

/-- A node without children is bare. -/
lemma bare_of_children_eq_nil {n : Node} (h : n.children = []) : n.Bare := by
  intro m hlayer
  obtain ⟨more, hchildren, -⟩ := wraps_iff.1 hlayer
  rw [h] at hchildren
  cases hchildren

/-- The node that names the function is reached by taking off layers, and is bare. -/
theorem wraps_calleeNode :
    (n : Node) → Relation.ReflTransGen Wraps n n.calleeNode ∧ n.calleeNode.Bare
  | mk kind loc text [] detail => ⟨.refl, bare_of_children_eq_nil rfl⟩
  | mk kind loc text (child :: more) detail => by
    obtain ⟨hreach, hbare⟩ := wraps_calleeNode child
    by_cases hlayer : ((isTransparent kind && more.isEmpty) || kind == optionsKind) = true
    · have hwraps : (mk kind loc text (child :: more) detail).Wraps child :=
        wraps_iff.2 ⟨more, rfl, hlayer⟩
      rw [hwraps.calleeNode_eq]
      exact ⟨.head hwraps hreach, hbare⟩
    · have hself : (mk kind loc text (child :: more) detail).Bare := by
        intro m h
        obtain ⟨more', hchildren, hlayer'⟩ := wraps_iff.1 h
        obtain ⟨rfl, rfl⟩ := List.cons.inj hchildren
        exact hlayer hlayer'
      rw [hself.calleeNode_eq]
      exact ⟨.refl, hself⟩

/-- A nest of any layers leaves the node that names the function. -/
lemma calleeNode_eq_of_wraps {n t : Node} (h : Relation.ReflTransGen Wraps n t) :
    n.calleeNode = t.calleeNode := by
  induction h with
  | refl => rfl
  | tail _ hlayer ih => rw [ih, hlayer.calleeNode_eq]

/-- Taking off layers ends at one node only. -/
lemma wraps_bare_iff {n e : Node} :
    Relation.ReflTransGen Wraps n e ∧ e.Bare ↔ e = n.calleeNode := by
  constructor
  · rintro ⟨hreach, hbare⟩
    rw [calleeNode_eq_of_wraps hreach, hbare.calleeNode_eq]
  · rintro rfl
    exact wraps_calleeNode n

/-! ## Names -/

/-- The callee of a node, told from the node at which taking off layers ends. It fails only where
that node looks like a member access and is none. -/
structure NamedBy (n e : Node) : Prop where
  member : ∀ name, n.callee = .ok (name, true) ↔ e.kind = Kind.member ∧ e.member? = some name
  identifier : ∀ name, n.callee = .ok (some name, false) ↔ e.kind = Kind.identifier ∧ name = e.text
  other : n.callee = .ok (none, false) ↔ e.kind ≠ Kind.member ∧ e.kind ≠ Kind.identifier
  fault : (∃ f, n.callee = .error f) ↔ e.kind = Kind.member ∧ e.member? = none

/-- The node that is reached names the function. -/
lemma namedBy_calleeNode (n : Node) : n.NamedBy n.calleeNode := by
  have hkinds : Kind.identifier ≠ Kind.member := by decide
  -- the kind of the node that is left decides, and for a member access whether it has its name
  by_cases hmember : n.calleeNode.kind = Kind.member
  · rcases hname : n.calleeNode.member? with _ | name
    · have hcallee : n.callee = .error (.noAttribute "member") := by
        simp [callee, stripOptions_unwrap, hmember, hname]
      constructor <;> simp [hcallee, hmember, hname, hkinds.symm]
    · have hcallee : n.callee = .ok (name, true) := by
        simp [callee, stripOptions_unwrap, hmember, hname]
      constructor <;> simp [hcallee, hmember, hname, hkinds.symm]
  · by_cases hidentifier : n.calleeNode.kind = Kind.identifier
    · have hcallee : n.callee = .ok (some n.calleeNode.text, false) := by
        simp [callee, stripOptions_unwrap, hidentifier, hkinds]
      constructor <;> simp [hcallee, hidentifier, hkinds, eq_comm]
    · have hcallee : n.callee = .ok (none, false) := by
        simp [callee, stripOptions_unwrap, hmember, hidentifier]
      constructor <;> simp [hcallee, hmember, hidentifier]

/-- The callee of a typed node is always found. -/
lemma NamedBy.exists_ok {n e : Node} (h : n.NamedBy e) (he : e.Genuine) :
    ∃ r, n.callee = .ok r := by
  cases hcallee : n.callee with
  | ok r => exact ⟨r, rfl⟩
  | error f =>
    obtain ⟨hkind, hnone⟩ := h.fault.1 ⟨f, hcallee⟩
    obtain ⟨name, hname⟩ := he.answers.member hkind
    rw [hnone] at hname
    cases hname

/-- Two loops, one for wrappers inside one for call options, take off all layers around a function.
No nest of layers changes the callee. From every node, taking off layers ends at exactly one bare
node: the callee is a member exactly if that is a member access, a plain name exactly if it is an
identifier, and nothing otherwise. -/
theorem callee_through_wrappers :
    (∀ n : Node, n.calleeNode = n.unwrap.stripOptions) ∧
    (∀ n t : Node, Relation.ReflTransGen Wraps n t → n.callee = t.callee) ∧
    ∀ n : Node, ∃ e : Node, (∀ m, Relation.ReflTransGen Wraps n m ∧ m.Bare ↔ m = e) ∧
      n.NamedBy e ∧ (e.Genuine → ∃ r, n.callee = .ok r) := by
  refine ⟨fun n => (stripOptions_unwrap n).symm, ?_, ?_⟩
  · intro n t hnest
    rw [callee, callee, stripOptions_unwrap, stripOptions_unwrap, calleeNode_eq_of_wraps hnest]
  · intro n
    have hnamed := namedBy_calleeNode n
    exact ⟨n.calleeNode, fun m => wraps_bare_iff, hnamed, hnamed.exists_ok⟩

/-- The member access `a.call`. -/
def memberCall : Node :=
  mk Kind.member ⟨1, 0⟩ "a.call" [mk Kind.identifier ⟨1, 0⟩ "a" [] .plain,
    mk Kind.identifier ⟨1, 2⟩ "call" [] .plain] (.member (some "call"))

/-- A node with call options after its function. -/
def withOptions (function : Node) : Node :=
  mk optionsKind ⟨1, 0⟩ ""
    [function, mk "struct_field_assignment" ⟨1, 8⟩ "value: v" [] .plain] .plain

/-- A node with one child. -/
def wrapped (kind : String) (n : Node) : Node :=
  mk kind ⟨1, 0⟩ "" [n] .plain

/-- There is no layer around the member access of the example. -/
lemma bare_memberCall : memberCall.Bare := by
  rintro m (⟨hkind, -⟩ | ⟨hkind, -⟩)
  · exact absurd hkind (by decide)
  · exact absurd hkind (by decide)

/-- Options around parentheses around options leave the member that is called. -/
theorem callee_through_wrappers_memberCall :
    let nest := wrapped "expression" (withOptions (wrapped "parenthesized_expression"
      (wrapped "expression" (withOptions (wrapped "expression" memberCall)))))
    Relation.ReflTransGen Wraps nest memberCall ∧ nest.callee = memberCall.callee ∧
      memberCall.Genuine ∧ nest.callee = .ok (some "call", true) := by
  intro nest
  have hnest : Relation.ReflTransGen Wraps nest memberCall :=
    .head (.transparent rfl rfl) <| .head (.options rfl rfl) <| .head (.transparent rfl rfl) <|
      .head (.transparent rfl rfl) <| .head (.options rfl rfl) <|
        .single (.transparent rfl rfl)
  have hgenuine : memberCall.Genuine := .inl rfl
  obtain ⟨e, hends, hnamed, -⟩ := callee_through_wrappers.2.2 nest
  obtain rfl := (hends memberCall).1 ⟨hnest, bare_memberCall⟩
  refine ⟨hnest, callee_through_wrappers.2.1 nest memberCall hnest, hgenuine, ?_⟩
  exact (hnamed.member (some "call")).2 ⟨rfl, rfl⟩

end ContractAudit.Node
