import ContractAudit.Ast.Serialize
import ContractAudit.Ast.Walk
import Mathlib.Tactic.Lemma

/-!
# Traversals without a stack

Walking and serialising work off a stack. Both are the recursion over the tree: `walk` is `preorder`
and `serialize` is `form`. With a node, the preorder has everything below the node.
-/

namespace ContractAudit.Node

/-- A path goes down to a child first. -/
lemma descend_cons (n : Node) (i : Nat) (path : List Nat) :
    n.descend (i :: path) = n.children[i]?.bind fun child => child.descend path := by
  rw [descend]
  cases n.children[i]? with
  | none => rfl
  | some child => rfl

/-- A path leads somewhere exactly if it leads there from the child. -/
lemma descend_cons_eq_some {n m : Node} {i : Nat} {path : List Nat} :
    n.descend (i :: path) = some m ↔
      ∃ child, n.children[i]? = some child ∧ child.descend path = some m := by
  rw [descend_cons]
  exact Option.bind_eq_some_iff

/-- The preorders of two lists, one after the other. -/
lemma preorders_append (ns ms : List Node) :
    preorders (ns ++ ms) = preorders ns ++ preorders ms := by
  induction ns with
  | nil => rfl
  | cons n ns ih => rw [List.cons_append, preorders, preorders, ih, List.append_assoc]

/-- The preorder of a list goes tree by tree. -/
lemma preorders_eq_flatMap (ns : List Node) : preorders ns = ns.flatMap preorder := by
  induction ns with
  | nil => rfl
  | cons n ns ih => rw [preorders, ih, List.flatMap_cons]

/-- The preorder begins with the root. -/
lemma preorder_eq (n : Node) : n.preorder = n :: preorders n.children := by
  cases n
  rfl

mutual

/-- The preorder has all nodes of a tree. -/
theorem length_preorder : (n : Node) → n.preorder.length = n.size
  | mk kind loc text children detail => by
    rw [preorder, List.length_cons, length_preorders children, size]

/-- The preorder of a list has all nodes of its trees. -/
theorem length_preorders : (ns : List Node) → (preorders ns).length = sizes ns
  | [] => rfl
  | n :: ns => by
    rw [preorders, List.length_append, length_preorder n, length_preorders ns, sizes]

end

mutual

/-- The nodes below a node of a tree are nodes of the tree, in the same order. -/
theorem preorder_sublist {m : Node} : (n : Node) → m ∈ n.preorder →
    m.preorder.Sublist n.preorder
  | mk kind loc text children detail, h => by
    rcases List.mem_cons.1 h with rfl | h
    · exact List.Sublist.refl _
    · exact .cons _ (preorders_sublist children h)

/-- The preorder of a node of a list is a part of that of the list. -/
theorem preorders_sublist {m : Node} : (ns : List Node) → m ∈ preorders ns →
    m.preorder.Sublist (preorders ns)
  | [], h => by cases h
  | n :: ns, h => by
    rcases List.mem_append.1 h with h | h
    · exact (preorder_sublist n h).trans (List.sublist_append_left _ _)
    · exact (preorders_sublist ns h).trans (List.sublist_append_right _ _)

end

/-- Nodes below a node of a tree are nodes of the tree. -/
lemma preorder_subset {m : Node} (n : Node) (h : m ∈ n.preorder) : m.preorder ⊆ n.preorder :=
  (preorder_sublist n h).subset

/-- A root is a node of its tree. -/
lemma mem_preorder_self (n : Node) : n ∈ n.preorder := by
  rw [preorder_eq]
  exact List.mem_cons_self

/-- A tree of a list is one of the nodes of the list. -/
lemma mem_preorders_of_mem {n : Node} {ns : List Node} (h : n ∈ ns) : n ∈ preorders ns := by
  induction ns with
  | nil => cases h
  | cons m ns ih =>
    rcases List.mem_cons.1 h with rfl | h
    · exact List.mem_append_left _ n.mem_preorder_self
    · exact List.mem_append_right _ (ih h)

/-- Children of nodes of a tree are nodes of the tree. -/
lemma mem_preorder_of_mem_children {root m c : Node} (hm : m ∈ root.preorder)
    (hc : c ∈ m.children) : c ∈ root.preorder := by
  apply preorder_subset root hm
  rw [preorder_eq]
  exact List.mem_cons_of_mem _ (mem_preorders_of_mem hc)

/-- A stack holds the trees that are still to be walked. -/
lemma walkStack_eq_preorders (stack : List Node) : walkStack stack = preorders stack := by
  -- the children of the top go on the stack before the rest, as they come before it in the order
  fun_induction walkStack stack with
  | case1 => rfl
  | case2 n rest ih => rw [ih, preorders_append, preorders, preorder_eq, List.cons_append]

/-- A walk is the recursion over the tree. -/
lemma walk_eq_preorder (n : Node) : n.walk = n.preorder := by
  rw [walk, walkStack_eq_preorders, preorders, preorders, List.append_nil]

/-- What a piece on the stack stands for. -/
def Piece.form : Piece → String
  | .text s => s
  | .tree n => n.form

/-- The form of a node with children. -/
lemma form_of_not_isEmpty {n : Node} (h : ¬ n.children.isEmpty) :
    n.form = n.kind ++ "[" ++ forms n.children ++ "]" := by
  rcases n with ⟨kind, loc, text, children, detail⟩
  cases children with
  | nil => exact absurd rfl h
  | cons child more => rfl

/-- The form of a leaf. -/
lemma form_of_isEmpty {n : Node} (h : n.children.isEmpty) : n.form = n.leafForm := by
  rcases n with ⟨kind, loc, text, children, detail⟩
  cases children with
  | nil => rfl
  | cons child more => cases h

/-- Trees with commas between them stand for their forms with commas between them. -/
lemma join_commaPieces (ns : List Node) (rest : List Piece) :
    String.join ((commaPieces ns rest).map Piece.form) =
      forms ns ++ String.join (rest.map Piece.form) := by
  induction ns with
  | nil => simp [commaPieces, forms]
  | cons n more ih =>
    cases more with
    | nil => simp [commaPieces, forms, Piece.form, String.join_cons]
    | cons m more =>
      simp only [commaPieces, forms, List.map_cons, String.join_cons, ih, Piece.form,
        String.append_assoc]

/-- A stack gives what is done and then what its pieces stand for. -/
lemma join_serializeStack (done : List String) (stack : List Piece) :
    String.join (serializeStack done stack) =
      String.join done.reverse ++ String.join (stack.map Piece.form) := by
  fun_induction serializeStack done stack with
  | case1 done => simp
  | case2 done s rest ih =>
    rw [ih, List.reverse_cons, String.join_append, List.map_cons, String.join_cons,
      String.append_assoc]
    simp [Piece.form, String.join_cons]
  | case3 done n rest hleaf ih =>
    rw [ih, List.reverse_cons, String.join_append, List.map_cons, String.join_cons,
      String.append_assoc]
    simp [Piece.form, form_of_isEmpty hleaf, String.join_cons]
  | case4 done n rest hinner ih =>
    rw [ih, List.map_cons, List.map_cons, String.join_cons, String.join_cons, join_commaPieces]
    simp [Piece.form, form_of_not_isEmpty hinner, String.join_cons, String.append_assoc]

/-- Serialising is the recursion over the tree. -/
lemma serialize_eq_form (n : Node) : n.serialize = n.form := by
  rw [serialize, join_serializeStack]
  simp [Piece.form, String.join_cons]

end ContractAudit.Node
