import ContractAudit.Proofs.Building
import Mathlib.Data.List.Find

/-!
# Comments

Comments may stand between any two parts of a text. `ParseTree.withoutComments` takes them out of a
concrete tree with all that is below them, and leaves everything else as it is. As long as comments
are named and fill no field, the typed tree does not change (`parseSource_withoutComments`).

A typed node takes from its concrete node only what `ParseTree.Alike` lists, apart from the finished
children, and nothing in that list comes from a comment.
-/

namespace ContractAudit

namespace ParseTree

/-- Whether a concrete node is a comment. -/
def isComment (t : ParseTree) : Bool :=
  t.tag.type == "comment"

mutual

/-- The tree without the comments below its root. -/
def withoutComments : ParseTree → ParseTree
  | mk tag children => mk tag (allWithoutComments children)

/-- The trees that are no comments, without the comments below them. -/
def allWithoutComments : List ParseTree → List ParseTree
  | [] => []
  | t :: rest =>
    if t.isComment then allWithoutComments rest else t.withoutComments :: allWithoutComments rest

end

/-- A node keeps its tag. -/
@[simp] lemma tag_withoutComments (t : ParseTree) : t.withoutComments.tag = t.tag := by
  cases t
  rfl

/-- The children that remain are without comments too. -/
lemma children_withoutComments (t : ParseTree) :
    t.withoutComments.children = allWithoutComments t.children := by
  cases t
  rfl

/-! ## What remains -/

/-- The tags of a node and of those around it. -/
def rowTags (row : List ParseTree × ParseTree) : List Tag × Tag :=
  (row.1.map tag, row.2.tag)

/-- Whether a node is neither a comment nor below one. -/
def isOutsideComments : List ParseTree × ParseTree → Bool :=
  hasThroughout fun t => !t.isComment

mutual

/-- The nodes that remain are those that are neither comments nor below one, in their order and with
their tags. -/
theorem rowTags_surrounded_withoutComments {around around' : List ParseTree}
    (haround : (around.all fun t => !t.isComment) = true)
    (htags : around'.map tag = around.map tag) :
    (t : ParseTree) → t.isComment = false →
      (t.withoutComments.surrounded around').map rowTags =
        ((t.surrounded around).filter isOutsideComments).map rowTags
  | mk tag children, hnone => by
    have hbelow : ((mk tag children :: around).all fun t => !t.isComment) = true := by
      rw [List.all_cons, hnone, haround]
      rfl
    have hbelowTags : (mk tag (allWithoutComments children) :: around').map ParseTree.tag =
        (mk tag children :: around).map ParseTree.tag := by
      rw [List.map_cons, List.map_cons, htags]
      rfl
    rw [withoutComments, surrounded, surrounded,
      List.filter_cons_of_pos (by simp [isOutsideComments, hasThroughout, hnone, haround]),
      List.map_cons, List.map_cons,
      rowTags_surroundedAll_allWithoutComments hbelow hbelowTags children]
    simp only [rowTags, htags]
    rfl

/-- The same of a list of trees, comments among them. -/
theorem rowTags_surroundedAll_allWithoutComments {around around' : List ParseTree}
    (haround : (around.all fun t => !t.isComment) = true)
    (htags : around'.map tag = around.map tag) :
    (ts : List ParseTree) →
      (surroundedAll around' (allWithoutComments ts)).map rowTags =
        ((surroundedAll around ts).filter isOutsideComments).map rowTags
  | [] => rfl
  | t :: ts => by
    have ih := rowTags_surroundedAll_allWithoutComments haround htags ts
    rw [surroundedAll, List.filter_append, List.map_append, allWithoutComments]
    cases hcomment : t.isComment with
    | true =>
      have hnothing : (t.surrounded around).filter isOutsideComments = [] :=
        filter_surrounded_of_root_not (p := fun t => !t.isComment) around (by rw [hcomment]; rfl)
      rw [if_pos rfl, hnothing]
      exact ih
    | false =>
      rw [if_neg Bool.false_ne_true, surroundedAll, List.map_append, ih,
        rowTags_surrounded_withoutComments haround htags t hcomment]

end

/-! ## What a typed node takes from its concrete node -/

/-- Two concrete nodes that a typed node with finished children cannot tell apart. -/
structure Alike (bytes : List UInt8) (t t' : ParseTree) : Prop where
  tag : t.tag = t'.tag
  field : ∀ name, (t.childByField? name).map ParseTree.tag =
    (t'.childByField? name).map ParseTree.tag
  token : t.anonymousToken? = t'.anonymousToken?
  modifiers : t.children.foldl (modifiersStep bytes) (none, none) =
    t'.children.foldl (modifiersStep bytes) (none, none)

end ParseTree

namespace ParseTree.Alike

variable {bytes : List UInt8} {t t' : ParseTree}

/-- The place of a field does not tell them apart. -/
lemma fieldIndex?_congr (h : Alike bytes t t') (kept : List Tag) (field : String) :
    fieldIndex? t kept field = fieldIndex? t' kept field := by
  rw [fieldIndex?_eq, fieldIndex?_eq, h.field]

/-- Operators and operands do not tell them apart. -/
lemma binaryDetail_congr (h : Alike bytes t t') (kept : List Tag) (children : List Node) :
    binaryDetail t kept children = binaryDetail t' kept children := by
  have hoperator := h.field "operator"
  simp only [binaryDetail, h.fieldIndex?_congr, h.token]
  cases hc : t.childByField? "operator" with
  | none =>
    cases hc' : t'.childByField? "operator" with
    | none => rfl
    | some c' => simp [hc, hc'] at hoperator
  | some c =>
    cases hc' : t'.childByField? "operator" with
    | none => simp [hc, hc'] at hoperator
    | some c' =>
      simp only [hc, hc', Option.map_some, Option.some.injEq] at hoperator
      simp only [hoperator]

/-- No kind of node takes more from its concrete node than the list says. -/
lemma shapeOf_congr (h : Alike bytes t t') (kept : List Tag) (children : List Node) :
    shapeOf bytes t kept children = shapeOf bytes t' kept children := by
  simp only [shapeOf, contractDetail, functionDetail, conditionalDetail, loopDetail, callDetail,
    memberDetail, assignmentDetail, namePosition?, h.binaryDetail_congr, h.fieldIndex?_congr,
    h.token, h.modifiers, h.tag]

/-- Made of the same parts, they give the same typed node. -/
lemma assemble_congr (h : Alike bytes t t') (parts : List (Tag × Node)) :
    assemble bytes t parts = assemble bytes t' parts := by
  simp only [assemble, h.shapeOf_congr, h.tag]

end ParseTree.Alike

/-! ## Building without comments -/

namespace ParseTree

/-- Every comment among the nodes is named and fills no field. -/
def PlainComments (nodes : List ParseTree) : Prop :=
  ∀ t ∈ nodes, t.tag.type = "comment" → t.tag.named = true ∧ t.tag.field = none

/-- The tags that remain are those of other types, in their order. -/
lemma tags_allWithoutComments (ts : List ParseTree) :
    (allWithoutComments ts).map tag = (ts.map tag).filter fun g => g.type != "comment" := by
  induction ts with
  | nil => rfl
  | cons t ts ih =>
    rw [allWithoutComments, List.map_cons]
    cases hcomment : t.isComment with
    | true =>
      rw [if_pos rfl, ih, List.filter_cons_of_neg (by simpa [isComment] using hcomment)]
    | false =>
      rw [if_neg Bool.false_ne_true, List.map_cons, tag_withoutComments, ih,
        List.filter_cons_of_pos (by simpa [isComment] using hcomment)]

/-- A search that no comment answers finds the same without comments. -/
lemma find?_allWithoutComments {ts : List ParseTree} (q : Tag → Bool)
    (h : ∀ t ∈ ts, t.tag.type = "comment" → q t.tag = false) :
    ((allWithoutComments ts).find? fun t => q t.tag).map tag =
      (ts.find? fun t => q t.tag).map tag := by
  have htags : ∀ us : List ParseTree,
      (us.find? fun t => q t.tag).map tag = (us.map tag).find? q := by
    intro us
    rw [List.find?_map]
    rfl
  rw [htags, htags, tags_allWithoutComments, List.find?_filter]
  apply List.find?_congr
  intro g hg
  obtain ⟨t, ht, rfl⟩ := List.mem_map.1 hg
  by_cases hcomment : t.tag.type = "comment"
  · simp [h t ht hcomment]
  · simp [hcomment]

/-- A comment says nothing about visibility or mutability. -/
lemma modifiersStep_of_comment {bytes : List UInt8} {c : ParseTree} (h : c.isComment = true)
    (seen : Option String × Option String) : modifiersStep bytes seen c = seen := by
  have htype : c.tag.type = "comment" := by simpa [isComment] using h
  simp [modifiersStep, htype, isVisibilityWord, isMutabilityWord]

/-- No modifier is read off a comment. -/
lemma foldl_modifiersStep_allWithoutComments {bytes : List UInt8} (ts : List ParseTree)
    (seen : Option String × Option String) :
    (allWithoutComments ts).foldl (modifiersStep bytes) seen =
      ts.foldl (modifiersStep bytes) seen := by
  induction ts generalizing seen with
  | nil => rfl
  | cons t ts ih =>
    rw [allWithoutComments, List.foldl_cons]
    cases hcomment : t.isComment with
    | true => rw [if_pos rfl, ih, modifiersStep_of_comment hcomment]
    | false =>
      rw [if_neg Bool.false_ne_true, List.foldl_cons, ih]
      simp only [modifiersStep, tag_withoutComments]

/-- A node without its comments is made into the same typed node. -/
lemma alike_withoutComments (bytes : List UInt8) {t : ParseTree} (h : PlainComments t.children) :
    Alike bytes t.withoutComments t where
  tag := t.tag_withoutComments
  field := by
    intro name
    rw [childByField?, childByField?, children_withoutComments]
    apply find?_allWithoutComments fun g => g.field == some name
    intro c hc hcomment
    rw [(h c hc hcomment).2]
    rfl
  token := by
    have hnamed : ∀ c ∈ t.children, c.tag.type = "comment" → (!c.tag.named) = false := by
      intro c hc hcomment
      rw [(h c hc hcomment).1]
      rfl
    have htypes := congrArg (Option.map Tag.type)
      (find?_allWithoutComments (fun g => !g.named) hnamed)
    rw [Option.map_map, Option.map_map] at htypes
    rw [anonymousToken?, anonymousToken?, children_withoutComments]
    exact htypes
  modifiers := by
    rw [children_withoutComments]
    exact foldl_modifiersStep_allWithoutComments t.children (none, none)

/-- A tree is one of its own nodes. -/
lemma mem_preorder_self (t : ParseTree) : t ∈ t.preorder := by
  cases t
  exact List.mem_cons_self

/-- A tree of a list is one of the nodes of the list. -/
lemma mem_preorders_of_mem {t : ParseTree} {ts : List ParseTree} (h : t ∈ ts) :
    t ∈ preorders ts := by
  induction ts with
  | nil => cases h
  | cons u ts ih =>
    rw [preorders]
    rcases List.mem_cons.1 h with rfl | h
    · exact List.mem_append_left _ t.mem_preorder_self
    · exact List.mem_append_right _ (ih h)

end ParseTree

open ParseTree (PlainComments)

mutual

/-- A tree without its comments is built like the tree. -/
theorem build_withoutComments (bytes : List UInt8) :
    (t : ParseTree) → PlainComments t.preorder → build bytes t.withoutComments = build bytes t
  | .mk tag children, h => by
    have hchildren : PlainComments children := fun c hc =>
      h c (List.mem_cons_of_mem _ (ParseTree.mem_preorders_of_mem hc))
    have hbelow : PlainComments (ParseTree.preorders children) := fun c hc =>
      h c (List.mem_cons_of_mem _ hc)
    have halike := ParseTree.alike_withoutComments bytes (t := .mk tag children) hchildren
    rw [ParseTree.withoutComments] at halike ⊢
    rw [build, build, buildKept_withoutComments bytes children hbelow]
    simp only [halike.assemble_congr]

/-- A list of trees gives the same typed nodes without comments. -/
theorem buildKept_withoutComments (bytes : List UInt8) :
    (ts : List ParseTree) → PlainComments (ParseTree.preorders ts) →
      buildKept bytes (ParseTree.allWithoutComments ts) = buildKept bytes ts
  | [], _ => rfl
  | t :: ts, h => by
    have hfirst : PlainComments t.preorder := fun c hc => h c (List.mem_append_left _ hc)
    have hrest : PlainComments (ParseTree.preorders ts) := fun c hc =>
      h c (List.mem_append_right _ hc)
    have ih := buildKept_withoutComments bytes ts hrest
    rw [ParseTree.allWithoutComments]
    cases hcomment : t.isComment with
    | true =>
      have hdropped : t.isKept = false := by
        rw [ParseTree.isKept, bne, show (t.tag.type == "comment") = true from hcomment]
        exact Bool.and_false _
      rw [if_pos rfl, ih, buildKept, hdropped]
      rfl
    | false =>
      have hkept : t.withoutComments.isKept = t.isKept := by
        rw [ParseTree.isKept, ParseTree.isKept, ParseTree.tag_withoutComments]
      rw [if_neg Bool.false_ne_true, buildKept, buildKept, hkept, ih,
        build_withoutComments bytes t hfirst, ParseTree.tag_withoutComments]

end

/-- The tree without comments has the other nodes of the tree, in their order, at their depth and
with their tags, and its typed tree, if there is one, is that of the tree. If there is none, the
reason is the same. -/
theorem parseSource_withoutComments (source : Text) {root : ParseTree}
    (hroot : root.tag.hasError = false) (hcomments : PlainComments root.preorder) :
    root.withoutComments.tag = root.tag ∧
      (ParseTree.surroundedAll [] root.withoutComments.children).map ParseTree.rowTags =
        ((ParseTree.surroundedAll [] root.children).filter ParseTree.isOutsideComments).map
          ParseTree.rowTags ∧
      parseSource source root.withoutComments = parseSource source root := by
  refine ⟨root.tag_withoutComments, ?_, ?_⟩
  · rw [ParseTree.children_withoutComments]
    exact ParseTree.rowTags_surroundedAll_allWithoutComments rfl rfl root.children
  · cases hbytes : Utf8.encode source with
    | error e => simp only [parseSource, hbytes]
    | ok bytes =>
      have hbelow : PlainComments (ParseTree.preorders root.children) := by
        intro t ht
        apply hcomments t
        cases root
        exact List.mem_cons_of_mem _ ht
      have hroot' : root.withoutComments.tag.hasError = false := by
        rw [ParseTree.tag_withoutComments, hroot]
      rw [parseSource_eq_buildKept hbytes hroot', parseSource_eq_buildKept hbytes hroot,
        ParseTree.children_withoutComments, buildKept_withoutComments bytes root.children hbelow]

/-- The concrete tree of `x/**/=/**/1` as an assignment with a comment on each side of its
operator. -/
def commentedAssignment : ParseTree :=
  .mk ⟨"source_file", 0, 11, true, false, false, none⟩
    [.mk ⟨"assignment_expression", 0, 11, true, false, false, none⟩
      [.mk ⟨"identifier", 0, 1, true, false, false, some "left"⟩ [],
       .mk ⟨"comment", 1, 5, true, false, false, none⟩ [],
       .mk ⟨"=", 5, 6, false, false, false, none⟩ [],
       .mk ⟨"comment", 6, 10, true, false, false, none⟩ [],
       .mk ⟨"number_literal", 10, 11, true, false, false, some "right"⟩ []]]

/-- An assignment with comments on both sides of the mark. -/
theorem parseSource_withoutComments_assignment :
    commentedAssignment.tag.hasError = false ∧ PlainComments commentedAssignment.preorder ∧
      commentedAssignment.withoutComments.size = 5 ∧ commentedAssignment.size = 7 ∧
      (parseSource "x/**/=/**/1" commentedAssignment).toOption.isSome = true ∧
      parseSource "x/**/=/**/1" commentedAssignment.withoutComments =
        parseSource "x/**/=/**/1" commentedAssignment := by
  have hcomments : PlainComments commentedAssignment.preorder := by
    unfold PlainComments
    decide
  have hparsed : (parseSource "x/**/=/**/1" commentedAssignment).toOption.isSome = true := by
    decide +kernel
  exact ⟨rfl, hcomments, rfl, rfl, hparsed,
    (parseSource_withoutComments "x/**/=/**/1" rfl hcomments).2.2⟩

end ContractAudit
