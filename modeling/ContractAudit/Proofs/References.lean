import ContractAudit.Proofs.Verdicts

/-!
# References stay inside the tree

A node of a typed tree of a text refers to its body as to one of its children. It refers to its
condition and to its operands through wrappers, each of which has a single child, and what is
reached is no wrapper. So every reference stands for a node of the walk that comes after its owner,
in the owner's own part of the walk. The main statement is `parseSource_references`.
-/

namespace ContractAudit

namespace Node

/-! ## Positions in a walk -/

/-- The offset of a path through a child passes the children before it. -/
lemma offset_cons {n child : Node} {i : Nat} (h : n.children[i]? = some child) (path : List Nat) :
    n.offset (i :: path) = sizes (n.children.take i) + child.offset path + 1 := by
  simp only [offset, h]
  omega

/-- The node at the end of a path comes as far behind as the path says. -/
lemma getElem?_offset {n m : Node} {path : List Nat} (h : n.descend path = some m) :
    n.preorder[n.offset path]? = some m := by
  induction path generalizing n with
  | nil =>
    rw [preorder_eq]
    exact h
  | cons i path ih =>
    obtain ⟨child, hchild, h⟩ := descend_cons_eq_some.1 h
    have hbelow := ih h
    have hlt : child.offset path < child.preorder.length :=
      (List.getElem?_eq_some_iff.1 hbelow).1
    -- the children before the path and the child on it share the walk below the node
    have hsplit : n.children = n.children.take i ++ child :: n.children.drop (i + 1) := by
      obtain ⟨hi, rfl⟩ := List.getElem?_eq_some_iff.1 hchild
      rw [List.getElem_cons_drop, List.take_append_drop]
    have hpreorders : preorders n.children = preorders (n.children.take i) ++
        (child.preorder ++ preorders (n.children.drop (i + 1))) := by
      rw [← preorders, ← preorders_append, ← hsplit]
    rw [offset_cons hchild, preorder_eq, List.getElem?_cons_succ, hpreorders,
      ← length_preorders, List.getElem?_append_right (Nat.le_add_right _ _),
      Nat.add_sub_cancel_left, List.getElem?_append_left hlt]
    exact hbelow

/-- A path that goes down leads further on in the walk. -/
lemma offset_pos {n m : Node} {i : Nat} {path : List Nat} (h : n.descend (i :: path) = some m) :
    0 < n.offset (i :: path) := by
  obtain ⟨child, hchild, -⟩ := descend_cons_eq_some.1 h
  rw [offset_cons hchild]
  exact Nat.succ_pos _

mutual

/-- In a walk a node is followed by everything below it. -/
theorem preorder_prefix_drop {m : Node} {k : Nat} : (n : Node) → n.preorder[k]? = some m →
    m.preorder <+: n.preorder.drop k
  | mk kind loc text children detail, h => by
    cases k with
    | zero =>
      obtain rfl := Option.some.inj h
      exact List.prefix_refl _
    | succ k => exact preorders_prefix_drop children h

/-- From the place of a node of a list on, the walk goes through its tree. -/
theorem preorders_prefix_drop {m : Node} {k : Nat} : (ns : List Node) →
    (preorders ns)[k]? = some m → m.preorder <+: (preorders ns).drop k
  | [], h => by cases h
  | n :: ns, h => by
    rw [preorders] at h ⊢
    by_cases hk : k < n.preorder.length
    · rw [List.getElem?_append_left hk] at h
      rw [List.drop_append_of_le_length (Nat.le_of_lt hk)]
      exact (preorder_prefix_drop n h).trans (List.prefix_append _ _)
    · rw [List.getElem?_append_right (Nat.le_of_not_lt hk)] at h
      rw [List.drop_append, List.drop_eq_nil_of_le (Nat.le_of_not_lt hk), List.nil_append]
      exact preorders_prefix_drop ns h

end

/-- What stands at a place in the part of a walk below a node stands there in the whole walk. -/
lemma getElem?_walk_add {root n m : Node} {k j : Nat} (hn : root.walk[k]? = some n)
    (hm : n.walk[j]? = some m) : root.walk[k + j]? = some m := by
  rw [walk_eq_preorder] at hn hm ⊢
  obtain ⟨rest, hrest⟩ := preorder_prefix_drop root hn
  rw [← List.getElem?_drop, ← hrest,
    List.getElem?_append_left (List.getElem?_eq_some_iff.1 hm).1]
  exact hm

/-! ## Going through wrappers -/

/-- A path that leads down from a node through wrappers only, each to its single child. -/
inductive Unwraps : Node → List Nat → Node → Prop where
  | here (n : Node) : Unwraps n [] n
  | inside {n child m : Node} {path : List Nat} (wrapper : isTransparent n.kind = true)
      (single : n.children = [child]) (h : Unwraps child path m) : Unwraps n (0 :: path) m

/-- Unwrapping goes through wrappers only. -/
lemma unwraps_unwrap : (n : Node) → n.Unwraps n.unwrapPath n.unwrap
  | mk kind loc text [] detail => by
    simp only [unwrapPath, unwrap]
    exact .here _
  | mk kind loc text [child] detail => by
    have ih := unwraps_unwrap child
    unfold unwrapPath unwrap
    split
    · rename_i htransparent
      exact .inside htransparent rfl ih
    · exact .here _
  | mk kind loc text (_ :: _ :: _) detail => by
    simp only [unwrapPath, unwrap]
    exact .here _

end Node

/-! ## The references of a built node -/

/-- What a reference of a node to a part that plays a role has to look like: a body is a child, and
every other part is what wrappers around it leave of a child. -/
def Reference.Reaches (n : Node) (role : Role) (r : Reference Node) (target : Node) : Prop :=
  match role with
  | .body => ∃ i, r = .inside [i] ∧ n.children[i]? = some target
  | _ => ∃ i child path, r = .inside (i :: path) ∧ n.children[i]? = some child ∧
      child.Unwraps path target ∧ target.isWrapper = false

/-- A reference that leads to a child or what it wraps reaches its target. -/
lemma Reference.LeadsTo.exists_reaches {n : Node} {role : Role} {r : Reference Node}
    (h : r.LeadsTo n.children role) : ∃ i path target, r = .inside (i :: path) ∧
      n.descend (i :: path) = some target ∧ r.Reaches n role target := by
  obtain ⟨i, hi, rfl⟩ := h
  have hchild : n.children[i]? = some n.children[i] := List.getElem?_eq_getElem hi
  have hbody : n.descend [i] = some n.children[i] := by
    rw [Node.descend, hchild]
    rfl
  have hwrapped : n.descend (i :: n.children[i].unwrapPath) = some n.children[i].unwrap := by
    rw [Node.descend, hchild]
    exact Node.descend_unwrapPath _
  have hunwrapped : unwrappedReference n.children i =
      .inside (i :: n.children[i].unwrapPath) := by
    rw [unwrappedReference, hchild]
  cases role with
  | body => exact ⟨i, [], _, rfl, hbody, i, rfl, hchild⟩
  | _ =>
    exact ⟨i, _, _, hunwrapped, hwrapped, i, _, _, hunwrapped, hchild, Node.unwraps_unwrap _,
      Node.isWrapper_unwrap _⟩

/-- In a typed tree of a text, every reference of a node leads to a child or to what wrappers leave
of one, and stands for a node of the walk strictly below the node. -/
theorem parseSource_references {source : Text} {root : ParseTree} {node : Node}
    (h : parseSource source root = .ok node) {k : Nat} {n : Node} (hn : node.walk[k]? = some n)
    {role : Role} {r : Reference Node} (hr : n.detail.reference? role = some r) :
    ∃ i path target, r = .inside (i :: path) ∧ n.part? role = some target ∧
      r.Reaches n role target ∧
      0 < n.offset (i :: path) ∧
      n.walk[n.offset (i :: path)]? = some target ∧
      node.walk[k + n.offset (i :: path)]? = some target := by
  have hmem : n ∈ node.preorder := by
    rw [← Node.walk_eq_preorder]
    exact List.mem_of_getElem? hn
  obtain ⟨i, path, target, rfl, hdescend, hreaches⟩ :=
    (leadsTo_of_reference? h hmem hr).exists_reaches
  have hbelow : n.walk[n.offset (i :: path)]? = some target := by
    rw [Node.walk_eq_preorder]
    exact Node.getElem?_offset hdescend
  refine ⟨i, path, target, rfl, ?_, hreaches, Node.offset_pos hdescend, hbelow,
    Node.getElem?_walk_add hn hbelow⟩
  rw [Node.part?_eq_resolve?, hr]
  exact hdescend

/-- A loop with two conditions. -/
def doubledCondition : Text :=
  "for(;(a);)b;"

/-- Two children of the loop have the span of the condition, and only the first fills the field. -/
def doubledConditionTree : ParseTree :=
  .mk ⟨"source_file", 0, 12, true, false, false, none⟩
    [.mk ⟨"for_statement", 0, 12, true, false, false, none⟩
      [.mk ⟨"parenthesized_expression", 5, 8, true, false, false, some "condition"⟩
        [.mk ⟨"number_literal", 6, 7, true, false, false, none⟩ []],
       .mk ⟨"parenthesized_expression", 5, 8, true, false, false, none⟩
        [.mk ⟨"expression", 6, 7, true, false, false, none⟩
          [.mk ⟨"identifier", 6, 7, true, false, false, none⟩ []]],
       .mk ⟨"expression_statement", 10, 12, true, false, false, some "body"⟩
        [.mk ⟨"identifier", 10, 11, true, false, false, none⟩ []]]]

/-- The later condition counts, and the loop refers to what is in two wrappers. -/
theorem parseSource_references_doubledCondition :
    ∃ node loop r, parseSource doubledCondition doubledConditionTree = .ok node ∧
      node.walk[1]? = some loop ∧ loop.detail.reference? .condition = some r ∧
      ∃ i path target, r = .inside (i :: path) ∧ target.kind = Kind.identifier ∧
        r.Reaches loop .condition target ∧ 0 < loop.offset (i :: path) ∧
        node.walk[1 + loop.offset (i :: path)]? = some target := by
  have hrun : ((parseSource doubledCondition doubledConditionTree).toOption.bind fun node =>
      node.walk[1]?.map fun n => (n.part? .condition).map Node.kind) =
      some (some Kind.identifier) := by
    decide +kernel
  obtain ⟨node, hnode, hwalk⟩ := Option.bind_eq_some_iff.1 hrun
  obtain ⟨loop, hloop, hkind⟩ := Option.map_eq_some_iff.1 hwalk
  obtain ⟨c, hc, hckind⟩ := Option.map_eq_some_iff.1 hkind
  obtain ⟨r, hr, -⟩ := Option.bind_eq_some_iff.1 (loop.part?_eq_resolve? .condition ▸ hc)
  obtain ⟨i, path, target, hpath, hpart, hreaches, hpos, -, hplace⟩ :=
    parseSource_references (eq_ok_of_toOption hnode) hloop hr
  obtain rfl : c = target := Option.some.inj (hc.symm.trans hpart)
  exact ⟨node, loop, r, eq_ok_of_toOption hnode, hloop, hr, i, path, c, hpath, hckind, hreaches,
    hpos, hplace⟩

end ContractAudit
