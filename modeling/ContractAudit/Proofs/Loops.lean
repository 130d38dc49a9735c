import ContractAudit.Proofs.Verdicts

/-!
# Findings about loops

A loop is reported for a bound that is read anew each time, and for a body with more than one
assignment. Every loop is judged on its own, so a body is walked once for each loop around it. In
the typed tree of a text the body of a loop lies below the loop; so if an inner loop has too many
assignments, a loop around it has them as well (`gasDetector_loops`).
-/

namespace ContractAudit.Gas

/-- An operand is the member `length` of something. -/
def IsLength (operand : Option Node) : Prop :=
  ∃ n, operand = some n ∧ n.kind = Kind.member ∧ n.member? = some (some "length")

/-- The condition of a loop is a length or a binary operation on one. -/
def Unbounded (n : Node) : Prop :=
  IsLength (n.part? .condition) ∨ ∃ c, n.part? .condition = some c ∧ c.kind = Kind.binary ∧
    (IsLength (c.part? .left) ∨ IsLength (c.part? .right))

/-- The body of a loop has two assignments or more, those in loops inside it included. -/
def ChangesOften (n : Node) : Prop :=
  ∃ body, n.part? .body = some body ∧ 2 ≤ body.preorder.countP Node.isAssignment

/-- An operand is a length exactly if it is the member that the detector looks for. -/
lemma isLength_iff {operand : Option Node} :
    IsLength operand ↔ isBoundMember operand = true := by
  simp only [IsLength, isBoundMember, boundMember, Option.any_eq_true, Bool.and_eq_true,
    beq_iff_eq]

/-- A loop is unbounded exactly if the detector takes its bound for dynamic. -/
lemma unbounded_iff {n : Node} : Unbounded n ↔ boundIsDynamic (n.part? .condition) = true := by
  simp only [Unbounded, boundIsDynamic, isLength_iff, Option.any_eq_true, Bool.or_eq_true,
    Bool.and_eq_true, beq_iff_eq]

/-- A loop changes state often exactly if its body has more than one assignment. -/
lemma changesOften_iff {n : Node} :
    ChangesOften n ↔ 1 < assignments (Node.walkPart (n.part? .body)) := by
  unfold ChangesOften
  cases n.part? .body with
  | none => simp [Node.walkPart, assignments]
  | some body =>
    rw [Node.walkPart, Node.walk_eq_preorder]
    simp only [Option.some.injEq, exists_eq_left']
    exact Iff.rfl

instance : DecidablePred Unbounded := fun _ => decidable_of_iff _ unbounded_iff.symm

instance : DecidablePred ChangesOften := fun _ => decidable_of_iff _ changesOften_iff.symm

/-- What is found about a loop. -/
lemma verdict_eq (n : Node) :
    verdict n = (if Unbounded n then [unboundedLoop n.loc] else []) ++
      if ChangesOften n then [multipleChanges n.loc] else [] := by
  simp only [verdict, unbounded_iff, changesOften_iff]

/-- What is around a body with too many assignments has them too. -/
lemma ChangesOften.of_mem_body {source : Text} {tree : ParseTree} {root outer body inner : Node}
    (hroot : parseSource source tree = .ok root) (houter : outer ∈ root.preorder)
    (hbody : outer.part? .body = some body) (hinner : inner ∈ body.preorder)
    (h : ChangesOften inner) : ChangesOften outer := by
  obtain ⟨part, hpart, htwo⟩ := h
  have hbelow : body ∈ root.preorder :=
    Node.preorder_subset root houter (part?_mem_preorder hroot houter hbody)
  have hwithin : inner ∈ root.preorder := Node.preorder_subset root hbelow hinner
  -- the inner body lies below the inner loop, so it is a part of the outer body
  have hmem : part ∈ body.preorder :=
    Node.preorder_subset body hinner (part?_mem_preorder hroot hwithin hpart)
  have hle : part.preorder.countP Node.isAssignment ≤ body.preorder.countP Node.isAssignment :=
    (Node.preorder_sublist body hmem).countP_le
  exact ⟨body, hbody, Nat.le_trans htwo hle⟩

end ContractAudit.Gas

namespace ContractAudit

/-- A loop in a loop, with two assignments in one expression. -/
def loops : Text :=
  "for(;;)for(;;)a=b=1;"

/-- The concrete tree of the loops. -/
def loopsTree : ParseTree :=
  .mk ⟨"source_file", 0, 20, true, false, false, none⟩
    [.mk ⟨"for_statement", 0, 20, true, false, false, none⟩
      [.mk ⟨"for_statement", 7, 20, true, false, false, some "body"⟩
        [.mk ⟨"expression_statement", 14, 20, true, false, false, some "body"⟩
          [.mk ⟨"assignment_expression", 14, 19, true, false, false, none⟩
            [.mk ⟨"identifier", 14, 15, true, false, false, some "left"⟩ [],
             .mk ⟨"=", 15, 16, false, false, false, none⟩ [],
             .mk ⟨"assignment_expression", 16, 19, true, false, false, some "right"⟩
              [.mk ⟨"identifier", 16, 17, true, false, false, some "left"⟩ [],
               .mk ⟨"=", 17, 18, false, false, false, none⟩ [],
               .mk ⟨"number_literal", 18, 19, true, false, false, some "right"⟩ []]]]]]]

/-- What the loops lead to: both are reported, and the body of the outer one is the inner one. -/
lemma detect_loops : ∃ root outer inner, parseSource loops loopsTree = .ok root ∧
    outer ∈ root.preorder ∧ outer.part? .body = some inner ∧ outer.kind = Kind.loop ∧
    inner.kind = Kind.loop ∧ Gas.ChangesOften inner ∧
    gasDetector.detect root = .ok [Gas.multipleChanges ⟨1, 0⟩, Gas.multipleChanges ⟨1, 7⟩] := by
  have hrun : ((parseSource loops loopsTree).toOption.bind fun root =>
      (root.preorder.find? fun n => n.kind == Kind.loop).bind fun outer =>
        (outer.part? .body).map fun inner =>
          (inner.kind, decide (Gas.ChangesOften inner), (gasDetector.detect root).toOption)) =
      some (Kind.loop, true,
        some [Gas.multipleChanges ⟨1, 0⟩, Gas.multipleChanges ⟨1, 7⟩]) := by
    decide +kernel
  obtain ⟨root, hroot, hrun⟩ := Option.bind_eq_some_iff.1 hrun
  obtain ⟨outer, houter, hrun⟩ := Option.bind_eq_some_iff.1 hrun
  obtain ⟨inner, hinner, hrun⟩ := Option.map_eq_some_iff.1 hrun
  obtain ⟨hkind, hrun⟩ := Prod.mk.inj hrun
  obtain ⟨hoften, hfound⟩ := Prod.mk.inj hrun
  have hloop := List.find?_some houter
  exact ⟨root, outer, inner, eq_ok_of_toOption hroot, List.mem_of_find?_eq_some houter, hinner,
    beq_iff_eq.1 hloop, hkind, of_decide_eq_true hoften, eq_ok_of_toOption hfound⟩

end ContractAudit
