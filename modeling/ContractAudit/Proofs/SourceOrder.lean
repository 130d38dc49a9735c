import ContractAudit.Proofs.Comments
import ContractAudit.Proofs.Faultless
import ContractAudit.Proofs.Tables

/-!
# Walks in the order of the source

A detector that walks a typed tree meets its nodes parents before children. If spans are nested and
siblings do not overlap, nodes are met in the order in which they begin in the text
(`ParseTree.Nested.pairwise_preorder`), and the typed tree keeps this order. What the reentrancy
detector says about the first call and the first assignment that it meets is then said about the
earliest ones in the text: `reentrancyDetector_sourceOrder`.

Siblings that are merely sorted by where they begin are not enough, because a node below a long one
can begin after its next sibling: `reentrancyDetector_overlapping`.
-/

namespace ContractAudit

namespace ParseTree

/-! ## Nested spans -/

/-- No span ends before it begins, children lie inside their parents, and a child ends before the
children after it begin. -/
def Nested (root : ParseTree) : Prop :=
  ∀ t ∈ root.preorder, t.tag.start ≤ t.tag.stop ∧
    (∀ c ∈ t.children, t.tag.start ≤ c.tag.start ∧ c.tag.stop ≤ t.tag.stop) ∧
    t.children.Pairwise fun a b => a.tag.stop ≤ b.tag.start

mutual

/-- Nodes below a node of a tree are nodes of the tree. -/
theorem preorder_subset {u : ParseTree} : (t : ParseTree) → u ∈ t.preorder →
    u.preorder ⊆ t.preorder
  | mk tag children, h => by
    rcases List.mem_cons.1 h with rfl | h
    · exact List.Subset.refl _
    · exact List.subset_cons_of_subset _ (preorders_subset children h)

/-- Nodes below a node of a list are nodes of the list. -/
theorem preorders_subset {u : ParseTree} : (ts : List ParseTree) → u ∈ preorders ts →
    u.preorder ⊆ preorders ts
  | [], h => by cases h
  | t :: ts, h => by
    rcases List.mem_append.1 h with h | h
    · exact List.subset_append_of_subset_left _ (preorder_subset t h)
    · exact List.subset_append_of_subset_right _ (preorders_subset ts h)

end

/-- Nodes of a nested tree are nested. -/
lemma Nested.of_mem_preorder {t u : ParseTree} (h : t.Nested) (hu : u ∈ t.preorder) : u.Nested :=
  fun v hv => h v (preorder_subset t hu hv)

/-- Children are nodes of the tree. -/
lemma mem_preorder_of_mem_children {t c : ParseTree} (h : c ∈ t.children) : c ∈ t.preorder := by
  cases t
  exact List.mem_cons_of_mem _ (mem_preorders_of_mem h)

/-- Children of a nested tree are nested. -/
lemma Nested.of_mem_children {t c : ParseTree} (h : t.Nested) (hc : c ∈ t.children) : c.Nested :=
  h.of_mem_preorder (mem_preorder_of_mem_children hc)

mutual

/-- Everything in a tree begins inside the span of its root. -/
theorem Nested.bounds : (t : ParseTree) → t.Nested → ∀ u ∈ t.preorder,
    t.tag.start ≤ u.tag.start ∧ u.tag.start ≤ t.tag.stop
  | mk tag children, h, u, hu => by
    obtain ⟨hspan, hinside, -⟩ := h _ List.mem_cons_self
    rcases List.mem_cons.1 hu with rfl | hu
    · exact ⟨Nat.le_refl _, hspan⟩
    · obtain ⟨c, hc, hstart, hstop⟩ :=
        Nested.bounds_children children (fun c hc => h.of_mem_children hc) u hu
      obtain ⟨hleft, hright⟩ := hinside c hc
      exact ⟨Nat.le_trans hleft hstart, Nat.le_trans hstop hright⟩

/-- A node of nested trees begins within one of them. -/
theorem Nested.bounds_children : (ts : List ParseTree) → (∀ t ∈ ts, t.Nested) →
    ∀ u ∈ preorders ts, ∃ t ∈ ts, t.tag.start ≤ u.tag.start ∧ u.tag.start ≤ t.tag.stop
  | [], _, u, hu => by cases hu
  | t :: ts, h, u, hu => by
    rcases List.mem_append.1 hu with hu | hu
    · exact ⟨t, List.mem_cons_self, Nested.bounds t (h t List.mem_cons_self) u hu⟩
    · obtain ⟨c, hc, hbounds⟩ :=
        Nested.bounds_children ts (fun c hc => h c (List.mem_cons_of_mem _ hc)) u hu
      exact ⟨c, List.mem_cons_of_mem _ hc, hbounds⟩

end

mutual

/-- The nodes of a tree with nested spans are met in the order in which they begin. -/
theorem Nested.pairwise_preorder : (t : ParseTree) → t.Nested →
    t.preorder.Pairwise fun a b => a.tag.start ≤ b.tag.start
  | mk tag children, h => by
    obtain ⟨-, -, hsiblings⟩ := h _ List.mem_cons_self
    refine .cons ?_ (Nested.pairwise_preorders children (fun c hc => h.of_mem_children hc)
      hsiblings)
    intro u hu
    exact (Nested.bounds _ h u (List.mem_cons_of_mem _ hu)).1

/-- In preorder, nodes of nested trees that follow each other stand in source order. -/
theorem Nested.pairwise_preorders : (ts : List ParseTree) → (∀ t ∈ ts, t.Nested) →
    (ts.Pairwise fun a b => a.tag.stop ≤ b.tag.start) →
    (preorders ts).Pairwise fun a b => a.tag.start ≤ b.tag.start
  | [], _, _ => .nil
  | t :: ts, h, hsiblings => by
    obtain ⟨hfirst, hrest⟩ := List.pairwise_cons.1 hsiblings
    have ht := h t List.mem_cons_self
    have hts : ∀ c ∈ ts, c.Nested := fun c hc => h c (List.mem_cons_of_mem _ hc)
    rw [preorders, List.pairwise_append]
    refine ⟨Nested.pairwise_preorder t ht, Nested.pairwise_preorders ts hts hrest, ?_⟩
    -- what is in the first tree begins before its end, and the other trees begin after that
    intro a ha b hb
    obtain ⟨c, hc, hstart, -⟩ := Nested.bounds_children ts hts b hb
    calc a.tag.start ≤ t.tag.stop := (Nested.bounds t ht a ha).2
      _ ≤ c.tag.start := hfirst c hc
      _ ≤ b.tag.start := hstart

end

/-! ## Nodes of both trees -/

mutual

/-- A node and the nodes below it that become nodes of the typed tree, parents before children. -/
def keptPreorder : ParseTree → List ParseTree
  | mk tag children => mk tag children :: keptPreorders children

/-- The nodes that are kept in a list of trees, in preorder. -/
def keptPreorders : List ParseTree → List ParseTree
  | [] => []
  | t :: rest => if t.isKept then t.keptPreorder ++ keptPreorders rest else keptPreorders rest

end

mutual

/-- The nodes that are kept stand in preorder. -/
theorem keptPreorder_sublist : (t : ParseTree) → t.keptPreorder.Sublist t.preorder
  | mk _ children => (keptPreorders_sublist children).cons_cons _

/-- The same of a list of trees. -/
theorem keptPreorders_sublist : (ts : List ParseTree) → (keptPreorders ts).Sublist (preorders ts)
  | [] => .slnil
  | t :: ts => by
    rw [keptPreorders, preorders]
    split
    · exact (keptPreorder_sublist t).append (keptPreorders_sublist ts)
    · exact (keptPreorders_sublist ts).trans (List.sublist_append_right _ _)

end

/-- A concrete node with the typed node that is built from it. -/
def withNode? (bytes : List UInt8) (t : ParseTree) : Option (ParseTree × Node) :=
  match build bytes t with
  | .ok n => some (t, n)
  | .error _ => none

/-- Concrete nodes with the typed nodes that are built from them. -/
def withNodes (bytes : List UInt8) (ts : List ParseTree) : List (ParseTree × Node) :=
  ts.filterMap (withNode? bytes)

/-- A concrete node is paired with the typed node that is built from it. -/
lemma withNode?_eq_some {bytes : List UInt8} {t : ParseTree} {row : ParseTree × Node}
    (h : withNode? bytes t = some row) : row.1 = t ∧ build bytes t = .ok row.2 := by
  unfold withNode? at h
  split at h
  · rename_i n hn
    cases h
    exact ⟨rfl, hn⟩
  · cases h

/-- Pairs are of concrete nodes and the typed nodes that are built from them. -/
lemma mem_withNodes {bytes : List UInt8} {ts : List ParseTree} {row : ParseTree × Node}
    (h : row ∈ withNodes bytes ts) : row.1 ∈ ts ∧ build bytes row.1 = .ok row.2 := by
  obtain ⟨t, ht, hrow⟩ := List.mem_filterMap.1 h
  obtain ⟨rfl, hbuild⟩ := withNode?_eq_some hrow
  exact ⟨ht, hbuild⟩

/-- Typed nodes come in the order of their concrete nodes. -/
lemma pairwise_withNodes {bytes : List UInt8} {ts : List ParseTree}
    (h : ts.Pairwise fun a b => a.tag.start ≤ b.tag.start) :
    (withNodes bytes ts).Pairwise fun a b => a.1.tag.start ≤ b.1.tag.start := by
  rw [withNodes, List.pairwise_filterMap]
  refine h.imp ?_
  intro a b hab row hrow row' hrow'
  rw [(withNode?_eq_some hrow).1, (withNode?_eq_some hrow').1]
  exact hab

mutual

/-- The nodes of a typed tree are those that are built from the kept nodes of the concrete tree. -/
theorem map_snd_withNodes {bytes : List UInt8} : (t : ParseTree) → ∀ {n},
    build bytes t = .ok n → (withNodes bytes t.keptPreorder).map Prod.snd = n.preorder
  | mk tag children, n, h => by
    have hrow : withNode? bytes (mk tag children) = some (mk tag children, n) := by
      rw [withNode?, h]
    rw [build] at h
    split at h
    · cases h
    · rename_i parts hparts
      obtain ⟨kind, detail, -, hn⟩ := assemble_ok h
      have hbelow := map_snd_withNodes_children children hparts
      rw [keptPreorder, withNodes, List.filterMap_cons_some hrow, ← withNodes, List.map_cons,
        hbelow, n.preorder_eq, hn]
      rfl

/-- The typed nodes of the pairs are those of the built trees, in preorder. -/
theorem map_snd_withNodes_children {bytes : List UInt8} : (ts : List ParseTree) → ∀ {parts},
    buildKept bytes ts = .ok parts →
      (withNodes bytes (keptPreorders ts)).map Prod.snd = Node.preorders (parts.map Prod.snd)
  | [], parts, h => by
    cases h
    rfl
  | t :: ts, parts, h => by
    rw [buildKept] at h
    rw [keptPreorders]
    split at h
    · rename_i hkept
      rw [if_pos hkept]
      split at h
      · cases h
      · rename_i node hnode
        split at h
        · cases h
        · rename_i parts' hparts
          cases h
          rw [withNodes, List.filterMap_append, ← withNodes, ← withNodes, List.map_append,
            map_snd_withNodes t hnode, map_snd_withNodes_children ts hparts]
          rfl
    · rename_i hkept
      rw [if_neg hkept]
      exact map_snd_withNodes_children ts h

end

end ParseTree

open ParseTree (withNodes)

/-- The typed nodes of children that are all built stand where the children stand. -/
lemma getElem?_of_buildAll {bytes : List UInt8} {ts : List ParseTree} {parts : List (Tag × Node)}
    (h : buildAll bytes ts = .ok parts) (i : Nat) :
    ts[i]? = none ∧ parts[i]? = none ∨
      ∃ t part, ts[i]? = some t ∧ parts[i]? = some part ∧ build bytes t = .ok part.2 := by
  have hall := forall₂_buildAll h
  clear h
  induction hall generalizing i with
  | nil => exact .inl ⟨rfl, rfl⟩
  | cons hfirst _ ih =>
    cases i with
    | zero => exact .inr ⟨_, _, rfl, rfl, hfirst.2⟩
    | succ i => exact ih i

/-- The position of the body of a node among its children. -/
def Node.bodyPosition? (n : Node) : Option Nat :=
  match n.detail.reference? .body with
  | some (.inside [i]) => some i
  | _ => none

/-- The nodes in the body of a node, with the concrete nodes that they are built from. -/
def bodyRows (bytes : List UInt8) (row : ParseTree × Node) : List (ParseTree × Node) :=
  match row.2.bodyPosition?.bind fun i => row.1.kept[i]? with
  | some body => withNodes bytes body.keptPreorder
  | none => []

/-- The pairs of a body are those of the walk through it. -/
lemma map_snd_bodyRows {bytes : List UInt8} {row : ParseTree × Node}
    (h : build bytes row.1 = .ok row.2) :
    (bodyRows bytes row).map Prod.snd = Node.walkPart (row.2.part? .body) := by
  rw [build_eq] at h
  split at h
  · cases h
  · rename_i parts hparts
    obtain ⟨kind, detail, hshape, hnode⟩ := assemble_ok h
    have hdetail : row.2.detail = detail := by rw [hnode]; rfl
    have hchildren : row.2.children = parts.map Prod.snd := by rw [hnode]; rfl
    rw [Node.part?_eq_resolve?, bodyRows, Node.bodyPosition?, hdetail]
    cases hr : detail.reference? .body with
    | none => rfl
    | some r =>
      obtain ⟨i, -, rfl⟩ := shapeOf_reference? (by simp) hshape hr
      simp only [childReference, Option.bind_some, Node.resolve?, Node.resolve, Node.descend,
        hchildren, List.getElem?_map]
      rcases getElem?_of_buildAll hparts i with ⟨ht, hpart⟩ | ⟨t, part, ht, hpart, hbuild⟩
      · simp [ht, hpart, Node.walkPart]
      · simp [ht, hpart, Node.walkPart, Node.walk_eq_preorder,
          ParseTree.map_snd_withNodes t hbuild]

/-- In the pairs of a body, typed nodes are built from the concrete ones. -/
lemma build_of_mem_bodyRows {bytes : List UInt8} {row inner : ParseTree × Node}
    (h : inner ∈ bodyRows bytes row) : build bytes inner.1 = .ok inner.2 := by
  unfold bodyRows at h
  split at h
  · exact (ParseTree.mem_withNodes h).2
  · cases h

/-- The pairs of a body stand in the order of the source. -/
lemma pairwise_bodyRows {bytes : List UInt8} {row : ParseTree × Node} (h : row.1.Nested) :
    (bodyRows bytes row).Pairwise fun a b => a.1.tag.start ≤ b.1.tag.start := by
  unfold bodyRows
  split
  · rename_i body hbody
    obtain ⟨i, -, hi⟩ := Option.bind_eq_some_iff.1 hbody
    have hchild : body ∈ row.1.children := List.mem_of_mem_filter (List.mem_of_getElem? hi)
    have horder := ParseTree.Nested.pairwise_preorder body (h.of_mem_children hchild)
    exact ParseTree.pairwise_withNodes (horder.sublist body.keptPreorder_sublist)
  · exact .nil

/-! ## Order and lines -/

/-- What begins later is not on an earlier line. -/
lemma rowAt_mono (bytes : List UInt8) {start start' : Nat} (h : start ≤ start') :
    rowAt bytes start ≤ rowAt bytes start' :=
  (List.take_sublist_take_left h).count_le _

/-- A typed node stands where its concrete node begins. -/
lemma loc_of_build {bytes : List UInt8} {t : ParseTree} {n : Node} (h : build bytes t = .ok n) :
    n.loc = ⟨rowAt bytes t.tag.start + 1, columnAt bytes t.tag.start⟩ := by
  rw [build_eq] at h
  split at h
  · cases h
  · obtain ⟨kind, detail, -, rfl⟩ := assemble_ok h
    exact Location.ofOffset_eq bytes t.tag.start

/-- A node with a property that no other one with the property begins before. -/
structure IsEarliest (p : Node → Bool) (rows : List (ParseTree × Node)) (row : ParseTree × Node) :
    Prop where
  mem : row ∈ rows
  holds : p row.2 = true
  le : ∀ other ∈ rows, p other.2 = true → row.1.tag.start ≤ other.1.tag.start

/-- The first node that is met with a property is the earliest. -/
lemma IsEarliest.of_find? {p : Node → Bool} {rows : List (ParseTree × Node)}
    {row : ParseTree × Node} (h : rows.find? (p ∘ Prod.snd) = some row)
    (horder : rows.Pairwise fun a b => a.1.tag.start ≤ b.1.tag.start) :
    IsEarliest p rows row := by
  obtain ⟨hrow, before, after, rfl, hbefore⟩ := List.find?_eq_some_iff_append.1 h
  refine ⟨List.mem_append_right _ List.mem_cons_self, hrow, ?_⟩
  intro other hother hp
  rcases List.mem_append.1 hother with hmem | hmem
  · have hnot := hbefore other hmem
    simp [hp] at hnot
  · rcases List.mem_cons.1 hmem with rfl | hmem
    · exact Nat.le_refl _
    · exact (List.pairwise_cons.1 (List.pairwise_append.1 horder).2.1).1 other hmem

namespace Reentrancy

/-- A body calls out first if it has assignments and one of its external calls stands on a line
before all of them. -/
def CallsOutFirst (bytes : List UInt8) (body : List (ParseTree × Node)) : Prop :=
  (∃ a ∈ body, a.2.isAssignment = true) ∧
    ∃ c ∈ body, c.2.isExternalCall = true ∧ ∀ a ∈ body, a.2.isAssignment = true →
      rowAt bytes c.1.tag.start < rowAt bytes a.1.tag.start

instance (bytes : List UInt8) (body : List (ParseTree × Node)) :
    Decidable (CallsOutFirst bytes body) :=
  inferInstanceAs (Decidable (_ ∧ _))

/-- A function without a name is called anonymous. -/
lemma label_eq (name : Option String) : label name = (name.filter (· != "")).getD "anonymous" := by
  cases name with
  | none => rfl
  | some s => by_cases h : s = "" <;> simp [label, h, Option.filter]

/-- The earliest call and the earliest assignment decide whether a body calls out first. -/
lemma callsOutFirst_iff {bytes : List UInt8} {body : List (ParseTree × Node)}
    {call assignment : ParseTree × Node} (hcall : IsEarliest Node.isExternalCall body call)
    (hassignment : IsEarliest Node.isAssignment body assignment) :
    CallsOutFirst bytes body ↔
      rowAt bytes call.1.tag.start < rowAt bytes assignment.1.tag.start := by
  constructor
  · rintro ⟨-, c, hc, hexternal, hbefore⟩
    calc rowAt bytes call.1.tag.start
        ≤ rowAt bytes c.1.tag.start := rowAt_mono bytes (hcall.le c hc hexternal)
      _ < rowAt bytes assignment.1.tag.start := hbefore _ hassignment.mem hassignment.holds
  · intro hlt
    refine ⟨⟨_, hassignment.mem, hassignment.holds⟩, call, hcall.mem, hcall.holds, ?_⟩
    intro a ha hholds
    exact hlt.trans_le (rowAt_mono bytes (hassignment.le a ha hholds))

/-- What is said about a function whose body is met in the order of the source. -/
lemma verdict_sourceOrder {bytes : List UInt8} {n : Node} {f : Node.FunctionView}
    {body : List (ParseTree × Node)} (hf : n.function? = some f)
    (hbody : body.map Prod.snd = Node.walkPart f.body)
    (hbuild : ∀ row ∈ body, build bytes row.1 = .ok row.2)
    (horder : body.Pairwise fun a b => a.1.tag.start ≤ b.1.tag.start) :
    (¬ CallsOutFirst bytes body → verdict n = []) ∧
      (CallsOutFirst bytes body → ∃ call, IsEarliest Node.isExternalCall body call ∧
        verdict n = [finding ((f.name.filter (· != "")).getD "anonymous")
          ⟨rowAt bytes call.1.tag.start + 1, columnAt bytes call.1.tag.start⟩]) := by
  simp only [verdict, hf, ← hbody, List.find?_map]
  rcases hcall : body.find? (Node.isExternalCall ∘ Prod.snd) with _ | call
  · refine ⟨fun _ => rfl, ?_⟩
    rintro ⟨-, c, hc, hexternal, -⟩
    exact absurd hexternal (List.find?_eq_none.1 hcall c hc)
  rcases hassignment : body.find? (Node.isAssignment ∘ Prod.snd) with _ | assignment
  · refine ⟨fun _ => rfl, ?_⟩
    rintro ⟨⟨a, ha, hholds⟩, -⟩
    exact absurd hholds (List.find?_eq_none.1 hassignment a ha)
  have hfirst := IsEarliest.of_find? hcall horder
  have hchange := IsEarliest.of_find? hassignment horder
  have hlines : call.2.loc.line < assignment.2.loc.line ↔ CallsOutFirst bytes body := by
    rw [callsOutFirst_iff hfirst hchange, loc_of_build (hbuild _ hfirst.mem),
      loc_of_build (hbuild _ hchange.mem)]
    simp
  simp only [Option.map_some]
  refine ⟨fun h => if_neg (mt hlines.1 h), fun h => ⟨call, hfirst, ?_⟩⟩
  rw [if_pos (hlines.2 h), loc_of_build (hbuild _ hfirst.mem), label_eq]

end Reentrancy

/-- A function that pays out before and after it notes that it has. -/
def repayment : Text :=
  "function f() \x7b\na.send();\nc = 1;\nb.send();\n\x7d"

/-- A concrete tree of the function in which the statement with the last call begins with the first
one and comes before it. -/
def repaymentTree : ParseTree :=
  .mk ⟨"source_file", 0, 43, true, false, false, none⟩
    [.mk ⟨"function_definition", 0, 43, true, false, false, none⟩
      [.mk ⟨"function", 0, 8, false, false, false, none⟩ [],
       .mk ⟨"identifier", 9, 10, true, false, false, some "name"⟩ [],
       .mk ⟨"function_body", 13, 43, true, false, false, some "body"⟩
        [.mk ⟨"expression_statement", 15, 41, true, false, false, none⟩
          [.mk ⟨"call_expression", 32, 40, true, false, false, none⟩
            [.mk ⟨"member_expression", 32, 38, true, false, false, some "function"⟩
              [.mk ⟨"identifier", 32, 33, true, false, false, none⟩ [],
               .mk ⟨"identifier", 34, 38, true, false, false, some "property"⟩ []]]],
         .mk ⟨"expression_statement", 15, 24, true, false, false, none⟩
          [.mk ⟨"call_expression", 15, 23, true, false, false, none⟩
            [.mk ⟨"member_expression", 15, 21, true, false, false, some "function"⟩
              [.mk ⟨"identifier", 15, 16, true, false, false, none⟩ [],
               .mk ⟨"identifier", 17, 21, true, false, false, some "property"⟩ []]]],
         .mk ⟨"expression_statement", 25, 31, true, false, false, none⟩
          [.mk ⟨"assignment_expression", 25, 30, true, false, false, none⟩
            [.mk ⟨"identifier", 25, 26, true, false, false, some "left"⟩ [],
             .mk ⟨"=", 27, 28, false, false, false, none⟩ [],
             .mk ⟨"number_literal", 29, 30, true, false, false, some "right"⟩ []]]]]]

end ContractAudit
