import ContractAudit.Ast.Basic

/-!
# Wrappers

Some nodes only wrap one child and mean nothing of their own. `unwrap` strips them. The name of a
called function is found by stripping wrappers and call options (`f{value: v}`), whose first child
is the function: `stripOptions` does it in rounds, and `calleeNode` is the same by recursion.
-/

namespace ContractAudit

/-- Whether nodes of a kind mean nothing of their own when they have one child. -/
def isTransparent (kind : String) : Bool :=
  kind == "expression" || kind == "parenthesized_expression" || kind == "expression_statement"

namespace Node

/-- Whether a node is a wrapper around its only child. -/
def isWrapper (n : Node) : Bool :=
  isTransparent n.kind && n.children.length == 1

/-- The child positions that lead through the wrappers at the top of a tree. -/
def unwrapPath : Node → List Nat
  | mk kind _ _ [child] _ => if isTransparent kind then 0 :: child.unwrapPath else []
  | _ => []

/-- The node under the wrappers. -/
def unwrap : Node → Node
  | mk kind loc text [child] detail =>
    if isTransparent kind then child.unwrap else mk kind loc text [child] detail
  | n => n

/-- Unwrapping follows the path through the wrappers. -/
theorem descend_unwrapPath : (n : Node) → n.descend n.unwrapPath = some n.unwrap
  | mk kind loc text [] detail => by simp [unwrapPath, unwrap, descend]
  | mk kind loc text [child] detail => by
    have ih := descend_unwrapPath child
    unfold unwrapPath unwrap
    split
    · simpa [descend, children] using ih
    · simp [descend]
  | mk kind loc text (_ :: _ :: _) detail => by simp [unwrapPath, unwrap, descend]

/-- What unwrapping leaves is no wrapper. -/
theorem isWrapper_unwrap : (n : Node) → n.unwrap.isWrapper = false
  | mk kind loc text [] detail => by simp [unwrap, isWrapper, children]
  | mk kind loc text [child] detail => by
    have ih := isWrapper_unwrap child
    unfold unwrap
    split
    · exact ih
    · rename_i h
      simp [isWrapper, Node.kind, h]
  | mk kind loc text (_ :: _ :: _) detail => by simp [unwrap, isWrapper, children]

/-- Unwrapping leaves a part of the tree. -/
theorem size_unwrap_le : (n : Node) → n.unwrap.size ≤ n.size
  | mk kind loc text [] detail => Nat.le_refl _
  | mk kind loc text [child] detail => by
    have ih := size_unwrap_le child
    unfold unwrap
    split
    · rw [size_eq (mk kind loc text [child] detail), children, sizes, sizes]
      omega
    · exact Nat.le_refl _
  | mk kind loc text (_ :: _ :: _) detail => Nat.le_refl _

/-- The kind of call options. -/
def optionsKind : String := "struct_expression"

/-- Goes from call options to their first child and unwraps it, as long as there are call
options. -/
def stripOptions (n : Node) : Node :=
  match _h : n.children with
  | [] => n
  | child :: _ => if n.kind == optionsKind then child.unwrap.stripOptions else n
termination_by n.size
decreasing_by
  have hchild := size_unwrap_le child
  rw [size_eq n, _h, sizes]
  omega

/-- The node that names a called function, by recursion through wrappers and call options. -/
def calleeNode : Node → Node
  | mk kind loc text [] detail => mk kind loc text [] detail
  | mk kind loc text (child :: more) detail =>
    if (isTransparent kind && more.isEmpty) || kind == optionsKind then child.calleeNode
    else mk kind loc text (child :: more) detail

/-- Unwrapping leaves the node that names a called function. -/
theorem calleeNode_unwrap : (n : Node) → n.unwrap.calleeNode = n.calleeNode
  | mk kind loc text [] detail => rfl
  | mk kind loc text [child] detail => by
    have ih := calleeNode_unwrap child
    unfold unwrap
    split
    · rename_i htransparent
      rw [ih, calleeNode.eq_def (mk kind loc text [child] detail)]
      simp [htransparent]
    · rfl
  | mk kind loc text (_ :: _ :: _) detail => rfl

/-- Under call options that are in no wrapper, the rounds find what the recursion finds. -/
theorem stripOptions_eq_calleeNode {n : Node} (hwrapper : n.isWrapper = false) :
    n.stripOptions = n.calleeNode := by
  fun_induction stripOptions n with
  | case1 n hchildren =>
    rcases n with ⟨kind, loc, text, children, detail⟩
    obtain rfl : children = [] := hchildren
    rfl
  | case2 n child more hchildren hkind ih =>
    rw [ih (isWrapper_unwrap child), calleeNode_unwrap]
    rcases n with ⟨kind, loc, text, children, detail⟩
    obtain rfl : children = child :: more := hchildren
    exact (if_pos (Bool.or_eq_true_iff.2 (.inr hkind))).symm
  | case3 n child more hchildren hkind =>
    rcases n with ⟨kind, loc, text, children, detail⟩
    obtain rfl : children = child :: more := hchildren
    refine (if_neg fun hlayer => ?_).symm
    rcases Bool.or_eq_true_iff.1 hlayer with hlayer | hoptions
    · obtain ⟨htransparent, hmore⟩ := Bool.and_eq_true_iff.1 hlayer
      obtain rfl := List.isEmpty_iff.1 hmore
      simp [isWrapper, Node.kind, children, htransparent] at hwrapper
    · exact hkind hoptions

/-- Unwrapping, and then unwrapping again under all call options, finds the node that names a called
function. -/
theorem stripOptions_unwrap (n : Node) : n.unwrap.stripOptions = n.calleeNode := by
  rw [stripOptions_eq_calleeNode (isWrapper_unwrap n), calleeNode_unwrap]

/-- The name of the function that a node calls as `n`, and whether it is a member. -/
def callee (n : Node) : Except Fault (Option String × Bool) :=
  let target := n.unwrap.stripOptions
  if target.kind == Kind.member then
    match target.member? with
    | some name => .ok (name, true)
    | none => .error (.noAttribute "member")
  else if target.kind == Kind.identifier then .ok (some target.text, false)
  else .ok (none, false)

end Node

end ContractAudit
