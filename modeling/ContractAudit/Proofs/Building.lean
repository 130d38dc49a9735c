import ContractAudit.Ast.Build
import Mathlib.Data.List.Forall2
import Mathlib.Data.List.Induction
import Mathlib.Tactic.SplitIfs

/-!
# Building by stack and by recursion

`buildStack` works off a stack of unfinished nodes. What a stack still has to do is written down as
`resume`: the innermost node is finished, handed to the one around it, and so on outwards. Every
step of the loop keeps it, so the loop builds what `buildKept` builds by recursion.

The nodes of a typed tree then stand one by one for the nodes of the concrete tree that are kept
together with everything around them. The main statement is `parseSource_outline`.
-/

namespace ContractAudit

/-! ## The loop and the recursion -/

/-- The typed trees of several concrete trees, with their tags. -/
def buildAll (bytes : List UInt8) : List ParseTree → Except Fault (List (Tag × Node))
  | [] => .ok []
  | t :: rest =>
    match build bytes t with
    | .error e => .error e
    | .ok node =>
      match buildAll bytes rest with
      | .error e => .error e
      | .ok parts => .ok ((t.tag, node) :: parts)

/-- The children that are kept are all built. -/
lemma buildKept_eq (bytes : List UInt8) (ts : List ParseTree) :
    buildKept bytes ts = buildAll bytes (ts.filter ParseTree.isKept) := by
  induction ts with
  | nil => rfl
  | cons t ts ih =>
    by_cases h : t.isKept
    · rw [buildKept, if_pos h, List.filter_cons_of_pos h, buildAll]
      cases build bytes t with
      | error e => rfl
      | ok node =>
        cases hrest : buildAll bytes (ts.filter ParseTree.isKept) with
        | error e => simp only [ih, hrest]
        | ok parts => simp only [ih, hrest]
    · simp only [buildKept, h, if_false, List.filter_cons_of_neg, not_false_eq_true, ih,
        Bool.false_eq_true]

/-- Finished trees stand one by one for the concrete trees, and have their tags. -/
lemma forall₂_buildAll {bytes : List UInt8} {ts : List ParseTree} {parts : List (Tag × Node)}
    (h : buildAll bytes ts = .ok parts) :
    List.Forall₂ (fun t part => part.1 = t.tag ∧ build bytes t = .ok part.2) ts parts := by
  induction ts generalizing parts with
  | nil =>
    cases h
    exact .nil
  | cons t ts ih =>
    rw [buildAll] at h
    split at h
    · cases h
    · rename_i node hnode
      split at h
      · cases h
      · rename_i parts' hparts
        cases h
        exact .cons ⟨rfl, hnode⟩ (ih hparts)

/-- A node is made from its kept children. -/
lemma build_eq (bytes : List UInt8) (t : ParseTree) :
    build bytes t =
      match buildAll bytes t.kept with
      | .error e => .error e
      | .ok parts => assemble bytes t parts := by
  cases t with
  | mk tag children =>
    rw [build, buildKept_eq]
    rfl

/-- What a stack of unfinished nodes does with a finished child of its innermost node, and then with
what is left around it. -/
def feed (bytes : List UInt8) (part : Tag × Node) :
    List Unfinished → List ParseTree → List (Tag × Node) → Except Fault (List (Tag × Node))
  | [], pending, done =>
    match buildAll bytes pending with
    | .error e => .error e
    | .ok parts => .ok ((part :: done).reverse ++ parts)
  | u :: outer, pending, done =>
    match buildAll bytes u.pending with
    | .error e => .error e
    | .ok parts =>
      match assemble bytes u.tree ((part :: u.done).reverse ++ parts) with
      | .error e => .error e
      | .ok node => feed bytes (u.tree.tag, node) outer pending done

/-- What a stack of unfinished nodes still has to do. -/
def resume (bytes : List UInt8) :
    List Unfinished → List ParseTree → List (Tag × Node) → Except Fault (List (Tag × Node))
  | [], pending, done =>
    match buildAll bytes pending with
    | .error e => .error e
    | .ok parts => .ok (done.reverse ++ parts)
  | u :: outer, pending, done =>
    match buildAll bytes u.pending with
    | .error e => .error e
    | .ok parts =>
      match assemble bytes u.tree (u.done.reverse ++ parts) with
      | .error e => .error e
      | .ok node => feed bytes (u.tree.tag, node) outer pending done

/-- A finished part joins the parts of the innermost unfinished tree. -/
lemma feed_cons (bytes : List UInt8) (part : Tag × Node) (u : Unfinished) (outer : List Unfinished)
    (pending : List ParseTree) (done : List (Tag × Node)) :
    feed bytes part (u :: outer) pending done =
      resume bytes ({ u with done := part :: u.done } :: outer) pending done := by
  rfl

/-- A node of which nothing is built yet is built and handed on. -/
lemma resume_start (bytes : List UInt8) (t : ParseTree) (outer : List Unfinished)
    (pending : List ParseTree) (done : List (Tag × Node)) :
    resume bytes (.start t :: outer) pending done =
      match build bytes t with
      | .error e => .error e
      | .ok node => feed bytes (t.tag, node) outer pending done := by
  rw [build_eq]
  simp only [resume, Unfinished.start, List.reverse_nil, List.nil_append]
  cases buildAll bytes t.kept with
  | error e => rfl
  | ok parts => rfl

/-- Below the root, the first pending child is built and handed on. -/
lemma resume_root_cons (bytes : List UInt8) (t : ParseTree) (more : List ParseTree)
    (done : List (Tag × Node)) :
    resume bytes [] (t :: more) done =
      match build bytes t with
      | .error e => .error e
      | .ok node => feed bytes (t.tag, node) [] more done := by
  simp only [resume, buildAll, feed]
  cases build bytes t with
  | error e => rfl
  | ok node =>
    cases buildAll bytes more with
    | error e => rfl
    | ok parts => simp

/-- The innermost unfinished tree goes on with its next pending child. -/
lemma resume_pending_cons {bytes : List UInt8} {u : Unfinished} {t : ParseTree}
    {more : List ParseTree} (outer : List Unfinished) (pending : List ParseTree)
    (done : List (Tag × Node)) (h : u.pending = t :: more) :
    resume bytes (u :: outer) pending done =
      match build bytes t with
      | .error e => .error e
      | .ok node => feed bytes (t.tag, node) ({ u with pending := more } :: outer) pending done := by
  simp only [resume, h, buildAll, feed]
  cases build bytes t with
  | error e => rfl
  | ok node =>
    cases buildAll bytes more with
    | error e => rfl
    | ok parts => simp

/-- The loop does what its stack still has to do. -/
lemma buildStack_eq_resume (bytes : List UInt8) (stack : List Unfinished)
    (pending : List ParseTree) (done : List (Tag × Node)) :
    buildStack bytes stack pending done = resume bytes stack pending done := by
  -- one case for each step of the loop: descend into a child, or finish a node and hand it on
  fun_induction buildStack bytes stack pending done with
  | case1 done => simp [resume, buildAll]
  | case2 done t more ih => rw [ih, resume_start, resume_root_cons]
  | case3 done u outer pending t more h ih =>
    rw [ih, resume_start, resume_pending_cons _ _ _ h]
  | case4 done u outer pending h e he =>
    simp only [List.unattach_reverse, List.unattach_attach] at he
    simp [resume, h, buildAll, he]
  | case5 done u pending h node hnode ih =>
    simp only [List.unattach_reverse, List.unattach_attach] at hnode
    simp only [hnode, ih]
    simp [resume, h, buildAll, hnode, feed]
  | case6 done u pending h node hnode parent outer' ih =>
    simp only [List.unattach_reverse, List.unattach_attach] at hnode
    simp only [hnode, ih, ← feed_cons]
    simp [resume, h, buildAll, hnode]

/-- The loop builds the children of a root as the recursion does. -/
lemma buildStack_root (bytes : List UInt8) (root : ParseTree) :
    buildStack bytes [] root.kept [] = buildKept bytes root.children := by
  rw [buildStack_eq_resume, buildKept_eq]
  simp only [resume, List.reverse_nil, List.nil_append]
  unfold ParseTree.kept
  cases buildAll bytes (root.children.filter ParseTree.isKept) with
  | error e => rfl
  | ok parts => rfl

/-- A text whose concrete tree has no errors gets the children of the root that are built. -/
lemma parseSource_eq_buildKept {source : Text} {bytes : List UInt8} {root : ParseTree}
    (hbytes : Utf8.encode source = .ok bytes) (hroot : root.tag.hasError = false) :
    parseSource source root =
      match buildKept bytes root.children with
      | .error f => .error (.fault f)
      | .ok parts =>
        .ok (.mk Kind.sourceUnit ⟨1, 0⟩ source.toStringLossy (parts.map Prod.snd) .sourceUnit) := by
  simp only [parseSource, hbytes, hroot, buildChildren, buildStack_root]
  cases buildKept bytes root.children with
  | error f => rfl
  | ok parts => rfl

/-! ## Places -/

/-- The number of line feeds before an offset. -/
def rowAt (bytes : List UInt8) (offset : Nat) : Nat :=
  (bytes.take offset).count 0x0A

/-- How many bytes follow the last line feed. -/
def lastLineLength (bytes : List UInt8) : Nat :=
  (bytes.reverse.takeWhile (· != 0x0A)).length

/-- The number of bytes between an offset and the last line feed before it. -/
def columnAt (bytes : List UInt8) (offset : Nat) : Nat :=
  lastLineLength (bytes.take offset)

/-- Counting goes on from the bytes before. -/
lemma placeAfter_eq (before rest : List UInt8) (n : Nat) :
    placeAfter (before.count 0x0A + 1) (lastLineLength before) n rest =
      ⟨(before ++ rest.take n).count 0x0A + 1, lastLineLength (before ++ rest.take n)⟩ := by
  induction n generalizing before rest with
  | zero => simp [placeAfter]
  | succ n ih =>
    cases rest with
    | nil => simp [placeAfter]
    | cons b rest =>
      have hstep := ih (before ++ [b]) rest
      by_cases hb : b = 0x0A
      · subst hb
        simpa [placeAfter, lastLineLength] using hstep
      · simpa [placeAfter, lastLineLength, hb] using hstep

/-- The place of an offset is counted in lines from one and in bytes of its line. -/
lemma Location.ofOffset_eq (bytes : List UInt8) (offset : Nat) :
    Location.ofOffset bytes offset = ⟨rowAt bytes offset + 1, columnAt bytes offset⟩ := by
  simpa [Location.ofOffset, rowAt, columnAt, lastLineLength] using placeAfter_eq [] bytes offset

/-! ## Nodes of the two trees -/

/-- The kind of the nodes that carry such a detail, if there is only one. -/
def Detail.kind? {α : Type} : Detail α → Option String
  | .plain => none
  | .sourceUnit => some Kind.sourceUnit
  | .contract _ _ => some Kind.contract
  | .function _ _ _ _ _ => some Kind.function
  | .conditional _ => some Kind.conditional
  | .loop _ _ => some Kind.loop
  | .call _ _ => some Kind.call
  | .member _ => some Kind.member
  | .assignment _ => some Kind.assignment
  | .binary _ _ _ => some Kind.binary

/-- The last element of a list has the last position, if it has the property. -/
lemma lastIndex?_concat {α : Type} (p : α → Bool) (xs : List α) (x : α) :
    lastIndex? p (xs ++ [x]) = if p x then some xs.length else lastIndex? p xs := by
  rw [lastIndex?, List.reverse_concat, List.findIdx?_cons, List.length_append]
  cases p x with
  | true => simp
  | false =>
    simp only [Bool.false_eq_true, if_false, Option.map_map, lastIndex?, List.length_singleton]
    congr 1
    funext i
    simp only [Function.comp_apply]
    omega

/-- One more child takes the row of its key. -/
lemma spanTable_concat (kept : List Tag) (tag : Tag) :
    spanTable (kept ++ [tag]) = upsert tag.key kept.length (spanTable kept) := by
  simp [spanTable, List.zipIdx_append]

/-- Later children replace earlier ones of the same key, so that a look-up gives the position of the
last child that has the key. -/
lemma lookup?_spanTable (kept : List Tag) (key : Nat × Nat × String) :
    lookup? key (spanTable kept) = lastIndex? (fun tag => tag.key == key) kept := by
  induction kept using List.reverseRecOn with
  | nil => rfl
  | append_singleton kept tag ih => rw [spanTable_concat, lookup?_upsert, ih, lastIndex?_concat]

/-- A field has the position of the last child that is kept and has the key of the first child with
this field. -/
lemma fieldIndex?_eq (t : ParseTree) (kept : List Tag) (field : String) :
    fieldIndex? t kept field =
      ((t.childByField? field).map ParseTree.tag).bind fun tag =>
        lastIndex? (fun c => c.key == tag.key) kept := by
  unfold fieldIndex?
  cases t.childByField? field with
  | none => rfl
  | some c => exact lookup?_spanTable kept c.tag.key

/-- The detail of a call has its callee and whether that is a member. -/
lemma callDetail_ok {t : ParseTree} {kept : List Tag} {children : List Node} {detail : Detail Node}
    (h : callDetail t kept children = .ok detail) :
    ∃ callee isMember, detail = .call callee isMember := by
  simp only [callDetail] at h
  split at h
  · cases h
    exact ⟨_, _, rfl⟩
  · split at h
    · cases h
      exact ⟨_, _, rfl⟩
    · cases h

/-- Only a child whose callee cannot be named keeps a call from being made. -/
lemma callDetail_error {t : ParseTree} {kept : List Tag} {children : List Node} {e : Fault}
    (h : callDetail t kept children = .error e) :
    ∃ target ∈ children, target.callee = .error e := by
  simp only [callDetail] at h
  split at h
  · cases h
  · rename_i target htarget
    obtain ⟨i, -, hi⟩ := Option.bind_eq_some_iff.1 htarget
    refine ⟨target, List.mem_of_getElem? hi, ?_⟩
    split at h
    · cases h
    · rename_i e' he
      cases h
      exact he

/-- The kind of a node goes with what it carries, or the node is plain and its kind is the type of
the concrete node. -/
lemma shapeOf_ok {bytes : List UInt8} {t : ParseTree} {kept : List Tag} {children : List Node}
    {kind : String} {detail : Detail Node} (h : shapeOf bytes t kept children = .ok (kind, detail)) :
    detail.kind? = some kind ∨ detail = .plain ∧ (kind = t.tag.type ∨ kind = Kind.identifier) := by
  simp only [shapeOf] at h
  rcases hcontract : contractKind? t.tag.type with _ | contractKind
  · simp only [hcontract] at h
    split_ifs at h
    · cases h
      exact .inl rfl
    · cases h
      exact .inl rfl
    · cases h
      exact .inl rfl
    · rcases hcall : callDetail t kept children with e | detail'
      · rw [hcall] at h
        cases h
      · rw [hcall] at h
        cases h
        obtain ⟨callee, isMember, rfl⟩ := callDetail_ok hcall
        exact .inl rfl
    · cases h
      exact .inl rfl
    · cases h
      exact .inl rfl
    · cases h
      exact .inl rfl
    · cases h
      exact .inr ⟨rfl, .inr rfl⟩
    · cases h
      exact .inr ⟨rfl, .inl rfl⟩
  · simp only [hcontract] at h
    cases h
    exact .inl rfl

/-- A shape fails only with the error of the name of a callee. -/
lemma shapeOf_error {bytes : List UInt8} {t : ParseTree} {kept : List Tag} {children : List Node}
    {e : Fault} (h : shapeOf bytes t kept children = .error e) :
    ∃ target ∈ children, target.callee = .error e := by
  simp only [shapeOf] at h
  rcases hcontract : contractKind? t.tag.type with _ | contractKind
  · simp only [hcontract] at h
    split_ifs at h
    rcases hcall : callDetail t kept children with e' | detail
    · rw [hcall] at h
      cases h
      exact callDetail_error hcall
    · rw [hcall] at h
      cases h
  · simp only [hcontract] at h
    cases h

/-- A node has the place and the text of its concrete node, and the children that were finished. -/
lemma assemble_ok {bytes : List UInt8} {t : ParseTree} {parts : List (Tag × Node)} {n : Node}
    (h : assemble bytes t parts = .ok n) :
    ∃ kind detail, shapeOf bytes t (parts.map Prod.fst) (parts.map Prod.snd) = .ok (kind, detail) ∧
      n = .mk kind (t.tag.location bytes) (t.tag.text bytes) (parts.map Prod.snd) detail := by
  simp only [assemble] at h
  split at h
  · rename_i kind detail hshape
    cases h
    exact ⟨kind, detail, hshape, rfl⟩
  · cases h

/-- A node fails only with the error of its shape. -/
lemma assemble_error {bytes : List UInt8} {t : ParseTree} {parts : List (Tag × Node)} {e : Fault}
    (h : assemble bytes t parts = .error e) :
    shapeOf bytes t (parts.map Prod.fst) (parts.map Prod.snd) = .error e := by
  simp only [assemble] at h
  split at h
  · cases h
  · rename_i e' hshape
    cases h
    exact hshape

namespace Node

mutual

/-- A node and everything below it with their depths, parents before children. -/
def outline (depth : Nat) : Node → List (Nat × Node)
  | mk kind loc text children detail =>
    (depth, mk kind loc text children detail) :: outlines (depth + 1) children

/-- Nodes of a list and all below them, in source order, each with its depth. -/
def outlines (depth : Nat) : List Node → List (Nat × Node)
  | [] => []
  | n :: rest => n.outline depth ++ outlines depth rest

end

/-- What is in the outline of a node is in that of a list that has it. -/
lemma outline_subset_outlines {n : Node} {ns : List Node} (depth : Nat) (h : n ∈ ns) :
    n.outline depth ⊆ outlines depth ns := by
  induction ns with
  | nil => cases h
  | cons m ns ih =>
    rw [outlines]
    rcases List.mem_cons.1 h with rfl | h
    · exact List.subset_append_left _ _
    · exact List.Subset.trans (ih h) (List.subset_append_right _ _)

/-- The node that names a called function is one of the tree. -/
lemma calleeNode_mem_outline (depth : Nat) : (n : Node) → ∃ d, (d, n.calleeNode) ∈ n.outline depth
  | mk kind loc text [] detail => ⟨depth, by simp [calleeNode, outline]⟩
  | mk kind loc text (child :: more) detail => by
    obtain ⟨d, hd⟩ := calleeNode_mem_outline (depth + 1) child
    unfold calleeNode
    split
    · exact ⟨d, List.mem_cons_of_mem _ (outline_subset_outlines _ List.mem_cons_self hd)⟩
    · exact ⟨depth, by simp [outline]⟩

/-- A callee cannot be named only if it looks like a member access and is none. -/
lemma callee_error {n : Node} {e : Fault} (h : n.callee = .error e) :
    n.calleeNode.kind = Kind.member ∧ n.calleeNode.member? = none := by
  simp only [callee, stripOptions_unwrap] at h
  split_ifs at h with hkind
  split at h
  · cases h
  · rename_i hmember
    exact ⟨by simpa using hkind, hmember⟩

end Node

namespace ParseTree

mutual

/-- A node and everything below it, parents before children, each with the nodes around it up to
`around`, the nearest first. -/
def surrounded (around : List ParseTree) : ParseTree → List (List ParseTree × ParseTree)
  | mk tag children =>
    (around, mk tag children) :: surroundedAll (mk tag children :: around) children

/-- Trees of a list and all below them, each with the trees around it. -/
def surroundedAll (around : List ParseTree) : List ParseTree → List (List ParseTree × ParseTree)
  | [] => []
  | t :: rest => t.surrounded around ++ surroundedAll around rest

end

/-- Whether a node and all nodes around it are kept. -/
def isKeptThroughout (row : List ParseTree × ParseTree) : Bool :=
  row.2.isKept && row.1.all isKept

/-- The nodes below a root that are named and no comments, and are below no others than such nodes,
with the nodes around them. -/
def keptBelow (root : ParseTree) : List (List ParseTree × ParseTree) :=
  (surroundedAll [] root.children).filter isKeptThroughout

/-- Whether a node and all nodes around it have a property. -/
def hasThroughout (p : ParseTree → Bool) (row : List ParseTree × ParseTree) : Bool :=
  p row.2 && row.1.all p

mutual

/-- Nothing has a property throughout below a node without it. -/
theorem filter_surrounded_of_not (p : ParseTree → Bool) (around : List ParseTree)
    (h : around.all p = false) :
    (t : ParseTree) → (t.surrounded around).filter (hasThroughout p) = []
  | mk tag children => by
    have hbelow : (mk tag children :: around).all p = false := by simp [h]
    rw [surrounded, List.filter_cons_of_neg (by simp [hasThroughout, h])]
    exact filter_surroundedAll_of_not p _ hbelow children

/-- Below a tree without the property, nothing has it throughout. -/
theorem filter_surroundedAll_of_not (p : ParseTree → Bool) (around : List ParseTree)
    (h : around.all p = false) :
    (ts : List ParseTree) → (surroundedAll around ts).filter (hasThroughout p) = []
  | [] => rfl
  | t :: ts => by
    rw [surroundedAll, List.filter_append, filter_surrounded_of_not p around h t,
      filter_surroundedAll_of_not p around h ts]
    rfl

end

/-- Nothing of a tree has a property throughout if its root does not have it. -/
lemma filter_surrounded_of_root_not {p : ParseTree → Bool} (around : List ParseTree)
    {t : ParseTree} (h : p t = false) : (t.surrounded around).filter (hasThroughout p) = [] := by
  cases t with
  | mk tag children =>
    rw [surrounded, List.filter_cons_of_neg (by simp [hasThroughout, h])]
    exact filter_surroundedAll_of_not p _ (by simp [h]) children

/-- Nothing of a tree is kept if its root is not. -/
lemma filter_surrounded_of_not_isKept (around : List ParseTree) {t : ParseTree}
    (h : t.isKept = false) : (t.surrounded around).filter isKeptThroughout = [] :=
  filter_surrounded_of_root_not around h

end ParseTree

/-! ## The correspondence -/

/-- Every element of a list has a partner in a list that is related to it. -/
lemma exists_mem_of_forall₂ {α β : Type} {R : α → β → Prop} {xs : List α} {ys : List β} {x : α}
    (h : List.Forall₂ R xs ys) (hx : x ∈ xs) : ∃ y ∈ ys, R x y := by
  induction h with
  | nil => cases hx
  | cons hxy _ ih =>
    rcases List.mem_cons.1 hx with rfl | hx
    · exact ⟨_, List.mem_cons_self, hxy⟩
    · obtain ⟨y, hy, hR⟩ := ih hx
      exact ⟨y, List.mem_cons_of_mem _ hy, hR⟩

/-- A typed node at a depth is made from a concrete node below some others. -/
structure MadeFrom (bytes : List UInt8) (typed : Nat × Node)
    (concrete : List ParseTree × ParseTree) : Prop where
  depth : typed.1 = concrete.1.length
  made : ∃ parts, assemble bytes concrete.2 parts = .ok typed.2

/-- A typed node that looks like a member access and is none has that type in the concrete tree. -/
lemma MadeFrom.type_eq_member {bytes : List UInt8} {typed : Nat × Node}
    {concrete : List ParseTree × ParseTree} (h : MadeFrom bytes typed concrete)
    (hkind : typed.2.kind = Kind.member) (hmember : typed.2.member? = none) :
    concrete.2.tag.type = Kind.member := by
  obtain ⟨parts, hparts⟩ := h.made
  obtain ⟨kind, detail, hshape, hnode⟩ := assemble_ok hparts
  rw [hnode] at hkind hmember
  obtain rfl : kind = Kind.member := hkind
  rcases shapeOf_ok hshape with hdetail | ⟨-, htype | hidentifier⟩
  -- a member access has its attribute, so the node is plain and took over the concrete type
  · cases detail with
    | member name => simp [Node.member?, Node.detail] at hmember
    | plain => cases hdetail
    | _ => exact absurd (Option.some.inj hdetail) (by decide)
  · exact htype.symm
  · exact absurd hidentifier (by decide)

mutual

/-- The nodes of a typed tree are made one by one from the nodes that are kept throughout. -/
theorem build_outline {bytes : List UInt8} {around : List ParseTree}
    (haround : around.all ParseTree.isKept = true) :
    (t : ParseTree) → t.isKept = true → ∀ {n}, build bytes t = .ok n →
      List.Forall₂ (MadeFrom bytes) (n.outline around.length)
        ((t.surrounded around).filter ParseTree.isKeptThroughout)
  | .mk tag children, hkept, n, h => by
    rw [build] at h
    split at h
    · cases h
    · rename_i parts hparts
      obtain ⟨kind, detail, -, rfl⟩ := assemble_ok h
      have hbelow : (ParseTree.mk tag children :: around).all ParseTree.isKept = true := by
        simp [hkept, haround]
      rw [Node.outline, ParseTree.surrounded,
        List.filter_cons_of_pos (by simp [ParseTree.isKeptThroughout, hkept, haround])]
      exact .cons ⟨rfl, parts, h⟩ (buildKept_outline hbelow children hparts)

/-- The nodes made for a list of trees are those of the trees kept throughout, in order. -/
theorem buildKept_outline {bytes : List UInt8} {around : List ParseTree}
    (haround : around.all ParseTree.isKept = true) :
    (ts : List ParseTree) → ∀ {parts}, buildKept bytes ts = .ok parts →
      List.Forall₂ (MadeFrom bytes) (Node.outlines around.length (parts.map Prod.snd))
        ((ParseTree.surroundedAll around ts).filter ParseTree.isKeptThroughout)
  | [], parts, h => by
    cases h
    exact .nil
  | t :: ts, parts, h => by
    rw [buildKept] at h
    rw [ParseTree.surroundedAll, List.filter_append]
    split at h
    · rename_i hkept
      split at h
      · cases h
      · rename_i node hnode
        split at h
        · cases h
        · rename_i parts' hparts
          cases h
          exact List.rel_append (build_outline haround t hkept hnode)
            (buildKept_outline haround ts hparts)
    · rename_i hkept
      rw [ParseTree.filter_surrounded_of_not_isKept around (by simpa using hkept)]
      exact buildKept_outline haround ts h

end

mutual

/-- A tree whose typed tree cannot be built has a node with the kind of a member access for a type. -/
theorem build_error {bytes : List UInt8} {around : List ParseTree} {e : Fault}
    (haround : around.all ParseTree.isKept = true) :
    (t : ParseTree) → t.isKept = true → build bytes t = .error e →
      ∃ row ∈ (t.surrounded around).filter ParseTree.isKeptThroughout,
        row.2.tag.type = Kind.member
  | .mk tag children, hkept, h => by
    have hbelow : (ParseTree.mk tag children :: around).all ParseTree.isKept = true := by
      simp [hkept, haround]
    rw [build] at h
    rw [ParseTree.surrounded,
      List.filter_cons_of_pos (by simp [ParseTree.isKeptThroughout, hkept, haround])]
    split at h
    · rename_i e' hchildren
      cases h
      obtain ⟨row, hrow, htype⟩ := buildKept_error hbelow children hchildren
      exact ⟨row, List.mem_cons_of_mem _ hrow, htype⟩
    · rename_i parts hparts
      -- the callee that cannot be named is a node below this one, made from a concrete node
      obtain ⟨target, htarget, hcallee⟩ := shapeOf_error (assemble_error h)
      obtain ⟨hkind, hmember⟩ := Node.callee_error hcallee
      obtain ⟨d, hd⟩ := Node.calleeNode_mem_outline (around.length + 1) target
      have hmem := Node.outline_subset_outlines _ htarget hd
      obtain ⟨row, hrow, hmade⟩ :=
        exists_mem_of_forall₂ (buildKept_outline hbelow children hparts) hmem
      exact ⟨row, List.mem_cons_of_mem _ hrow, hmade.type_eq_member hkind hmember⟩

/-- Trees whose typed trees cannot be built have a node with the kind of a member access for a
type. -/
theorem buildKept_error {bytes : List UInt8} {around : List ParseTree} {e : Fault}
    (haround : around.all ParseTree.isKept = true) :
    (ts : List ParseTree) → buildKept bytes ts = .error e →
      ∃ row ∈ (ParseTree.surroundedAll around ts).filter ParseTree.isKeptThroughout,
        row.2.tag.type = Kind.member
  | [], h => by cases h
  | t :: ts, h => by
    rw [buildKept] at h
    rw [ParseTree.surroundedAll, List.filter_append]
    split at h
    · rename_i hkept
      split at h
      · rename_i e' hnode
        cases h
        obtain ⟨row, hrow, htype⟩ := build_error haround t hkept hnode
        exact ⟨row, List.mem_append_left _ hrow, htype⟩
      · split at h
        · rename_i e' hrest
          cases h
          obtain ⟨row, hrow, htype⟩ := buildKept_error haround ts hrest
          exact ⟨row, List.mem_append_right _ hrow, htype⟩
        · cases h
    · obtain ⟨row, hrow, htype⟩ := buildKept_error haround ts h
      exact ⟨row, List.mem_append_right _ hrow, htype⟩

end

/-- A typed node at a depth stands for a concrete node below some others: it is as deep, begins at
the same row and column, and has the bytes of the concrete node for its text. -/
structure StandsFor (bytes : List UInt8) (typed : Nat × Node)
    (concrete : List ParseTree × ParseTree) : Prop where
  depth : typed.1 = concrete.1.length
  line : typed.2.loc.line = rowAt bytes concrete.2.tag.start + 1
  column : typed.2.loc.column = columnAt bytes concrete.2.tag.start
  text : typed.2.text = Utf8.decodeLossy (slice bytes concrete.2.tag.start concrete.2.tag.stop)

/-- A typed node stands for the concrete node from which it is made. -/
lemma MadeFrom.standsFor {bytes : List UInt8} {typed : Nat × Node}
    {concrete : List ParseTree × ParseTree} (h : MadeFrom bytes typed concrete) :
    StandsFor bytes typed concrete := by
  obtain ⟨parts, hparts⟩ := h.made
  obtain ⟨kind, detail, -, hnode⟩ := assemble_ok hparts
  have hloc : typed.2.loc = Location.ofOffset bytes concrete.2.tag.start := by
    rw [hnode]
    rfl
  rw [Location.ofOffset_eq] at hloc
  refine ⟨h.depth, by rw [hloc], by rw [hloc], ?_⟩
  rw [hnode]
  rfl

/-- The loop with a stack builds what the recursion over the kept children builds. So a text whose
concrete tree has no errors has a typed tree, unless the concrete tree uses the kind of a member
access for a type; and below the root the nodes of the typed tree stand, one by one and in order,
for the concrete nodes that are named and no comments and are below no others than such nodes. -/
theorem parseSource_outline {source : Text} {bytes : List UInt8} {root : ParseTree}
    (hbytes : Utf8.encode source = .ok bytes) (hroot : root.tag.hasError = false) :
    buildStack bytes [] root.kept [] = buildKept bytes root.children ∧
      ((∃ f, buildKept bytes root.children = .error f ∧
          parseSource source root = .error (.fault f) ∧
          ∃ row ∈ root.keptBelow, row.2.tag.type = Kind.member) ∨
        ∃ parts node, buildKept bytes root.children = .ok parts ∧
          parseSource source root = .ok node ∧
          node.children = parts.map Prod.snd ∧
          List.Forall₂ (StandsFor bytes) (Node.outlines 0 node.children) root.keptBelow) := by
  refine ⟨buildStack_root bytes root, ?_⟩
  have hparse := parseSource_eq_buildKept hbytes hroot
  have hnone : ([] : List ParseTree).all ParseTree.isKept = true := rfl
  rcases hbuild : buildKept bytes root.children with f | parts
  · rw [hbuild] at hparse
    exact .inl ⟨f, rfl, hparse, buildKept_error hnone root.children hbuild⟩
  · rw [hbuild] at hparse
    refine .inr ⟨parts, _, rfl, hparse, rfl, ?_⟩
    exact (buildKept_outline hnone root.children hbuild).imp fun _ _ h => h.standsFor

/-- The concrete tree of an identifier behind a comment and an unnamed node that has a child. -/
def identifierTree : ParseTree :=
  .mk ⟨"source_file", 0, 6, true, false, false, none⟩
    [.mk ⟨"comment", 0, 4, true, false, false, none⟩ [],
     .mk ⟨";", 4, 5, false, false, false, none⟩
       [.mk ⟨"identifier", 4, 5, true, false, false, none⟩ []],
     .mk ⟨"identifier", 5, 6, true, false, false, none⟩ []]

/-- A source with a comment, a stray mark and a name. -/
theorem parseSource_outline_identifier :
    Utf8.encode (Text.ofString "/**/;a") = .ok [0x2F, 0x2A, 0x2A, 0x2F, 0x3B, 0x61] ∧
      identifierTree.tag.hasError = false ∧
      ∃ node, parseSource (Text.ofString "/**/;a") identifierTree = .ok node ∧
        List.Forall₂ (StandsFor [0x2F, 0x2A, 0x2A, 0x2F, 0x3B, 0x61])
          (Node.outlines 0 node.children)
          [([], .mk ⟨"identifier", 5, 6, true, false, false, none⟩ [])] := by
  have hbytes : Utf8.encode (Text.ofString "/**/;a") =
      .ok [0x2F, 0x2A, 0x2A, 0x2F, 0x3B, 0x61] := by decide
  have hroot : identifierTree.tag.hasError = false := rfl
  have hkept : identifierTree.keptBelow =
      [([], .mk ⟨"identifier", 5, 6, true, false, false, none⟩ [])] := rfl
  refine ⟨hbytes, hroot, ?_⟩
  -- no node of the tree has the kind of a member access for a type, so there is a typed tree
  rcases (parseSource_outline hbytes hroot).2 with ⟨f, -, -, row, hrow, htype⟩ |
    ⟨parts, node, -, hparse, -, houtline⟩
  · rw [hkept] at hrow
    obtain rfl := List.mem_singleton.1 hrow
    exact absurd htype (by decide)
  · rw [hkept] at houtline
    exact ⟨node, hparse, houtline⟩

end ContractAudit
