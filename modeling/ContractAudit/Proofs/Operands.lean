import ContractAudit.Proofs.Comparisons
import ContractAudit.Proofs.Readability

/-!
# Operands that share a key

Comparisons are grouped by the forms of their left operands. Operands that are alike share a group,
and of readable operands only such do: that is the first part of `logicDetector_operands`. The
second says that every finding about operators comes from two comparisons of one group with
different boundary operators.

Operators inside operands are not a part of the form. So `a + b` and `a - b` are alike, and
comparing one with `<` and the other with `<=` is reported: `logicDetector_mixes_operands`.
-/

namespace ContractAudit

/-- A list without repetition is longer than one exactly if it has two different elements. -/
lemma one_lt_length_iff_of_nodup {α : Type} {xs : List α} (h : xs.Nodup) :
    1 < xs.length ↔ ∃ a ∈ xs, ∃ b ∈ xs, a ≠ b := by
  rcases xs with _ | ⟨a, _ | ⟨b, more⟩⟩
  · simp
  · simp
  · have hne : a ≠ b := fun heq => (List.nodup_cons.1 h).1 (heq ▸ List.mem_cons_self)
    have hlength : 1 < (a :: b :: more).length := by simp
    exact iff_of_true hlength
      ⟨a, List.mem_cons_self, b, List.mem_cons_of_mem _ List.mem_cons_self, hne⟩

namespace Logic

/-- Two comparisons clash if their left operands have the same form and their operators are
different boundary operators. -/
structure Clash (c c' : Node × String) : Prop where
  form : c.1.serialize = c'.1.serialize
  ne : c.2 ≠ c'.2
  left : c.2 ∈ boundaryOperators
  right : c'.2 ∈ boundaryOperators

/-- The boundary operators of a form are those of comparisons with that form. -/
lemma mem_boundaryOf {key operator : String} {comparisons : List (Node × String)} :
    operator ∈ boundaryOf key comparisons ↔
      operator ∈ boundaryOperators ∧ ∃ c ∈ comparisons, c.1.serialize = key ∧ c.2 = operator := by
  simp only [boundaryOf, operatorsOf, List.mem_eraseDups, List.mem_filter, List.mem_map,
    List.contains_iff_mem, beq_iff_eq]
  constructor
  · rintro ⟨⟨c, ⟨hc, hkey⟩, hoperator⟩, hboundary⟩
    exact ⟨hboundary, c, hc, hkey, hoperator⟩
  · rintro ⟨hboundary, c, hc, hkey, hoperator⟩
    exact ⟨⟨c, ⟨hc, hkey⟩, hoperator⟩, hboundary⟩

/-- A form has several boundary operators exactly if two comparisons of it clash. -/
lemma one_lt_length_boundaryOf_iff {key : String} {comparisons : List (Node × String)} :
    1 < (boundaryOf key comparisons).length ↔
      ∃ c ∈ comparisons, ∃ c' ∈ comparisons, c.1.serialize = key ∧ Clash c c' := by
  have hnodup : (boundaryOf key comparisons).Nodup := nodup_eraseDups _
  rw [one_lt_length_iff_of_nodup hnodup]
  constructor
  · rintro ⟨a, ha, b, hb, hne⟩
    obtain ⟨hleft, c, hc, hkey, rfl⟩ := mem_boundaryOf.1 ha
    obtain ⟨hright, c', hc', hkey', rfl⟩ := mem_boundaryOf.1 hb
    exact ⟨c, hc, c', hc', hkey, hkey.trans hkey'.symm, hne, hleft, hright⟩
  · rintro ⟨c, hc, c', hc', hkey, hclash⟩
    have hkey' : c'.1.serialize = key := hclash.form.symm.trans hkey
    exact ⟨c.2, mem_boundaryOf.2 ⟨hclash.left, c, hc, hkey, rfl⟩,
      c'.2, mem_boundaryOf.2 ⟨hclash.right, c', hc', hkey', rfl⟩, hclash.ne⟩

/-- The findings about groups are those about clashes. -/
lemma mem_comparisonFindings_grouped {comparisons : List (Node × String)} {x : Finding} :
    x ∈ comparisonFindings (grouped comparisons) ↔
      ∃ c ∈ comparisons, ∃ c' ∈ comparisons, Clash c c' ∧
        x = inconsistentOperators (boundaryOf c.1.serialize comparisons) := by
  rw [comparisonFindings_grouped, List.mem_filterMap]
  constructor
  · rintro ⟨key, -, hx⟩
    split at hx
    · rename_i hlength
      obtain ⟨c, hc, c', hc', rfl, hclash⟩ := one_lt_length_boundaryOf_iff.1 hlength
      exact ⟨c, hc, c', hc', hclash, (Option.some.inj hx).symm⟩
    · cases hx
  · rintro ⟨c, hc, c', hc', hclash, rfl⟩
    refine ⟨c.1.serialize, List.mem_eraseDups.2 (List.mem_map_of_mem hc), ?_⟩
    rw [if_pos (one_lt_length_boundaryOf_iff.2 ⟨c, hc, c', hc', rfl, hclash⟩)]

/-- Findings about functions have a title of their own. -/
lemma title_of_mem_verdict {n : Node} {x : Finding} (h : x ∈ verdict n) :
    x.title = "Function Might Miss State Updates" := by
  unfold verdict at h
  split at h
  · cases h
  · split at h
    · rw [List.mem_singleton.1 h]
      rfl
    · cases h

/-- Findings about comparisons have a title of their own. -/
lemma title_of_mem_comparisonFindings {seen : Comparisons} {x : Finding}
    (h : x ∈ comparisonFindings seen) : x.title = "Inconsistent Comparison Operators" := by
  obtain ⟨⟨key, operators⟩, -, hx⟩ := List.mem_filterMap.1 h
  simp only at hx
  split at hx
  · cases hx
    rfl
  · cases hx

/-- The two sorts of findings are told apart by their titles. -/
lemma filter_title (seen : Comparisons) (ns : List Node) (title : String) :
    (comparisonFindings seen ++ ns.flatMap verdict).filter (fun x => x.title == title) =
      (if "Inconsistent Comparison Operators" = title then comparisonFindings seen else []) ++
        if "Function Might Miss State Updates" = title then ns.flatMap verdict else [] := by
  have hseen : ∀ x ∈ comparisonFindings seen,
      (x.title == title) = decide ("Inconsistent Comparison Operators" = title) := by
    intro x hx
    rw [title_of_mem_comparisonFindings hx]
    rfl
  have hverdicts : ∀ x ∈ ns.flatMap verdict,
      (x.title == title) = decide ("Function Might Miss State Updates" = title) := by
    intro x hx
    obtain ⟨n, -, hn⟩ := List.mem_flatMap.1 hx
    rw [title_of_mem_verdict hn]
    rfl
  rw [List.filter_append, List.filter_congr hseen, List.filter_congr hverdicts]
  congr 1 <;> split <;> simp [*]

end Logic

/-- What is known about comparisons that share a key. The typed tree of a text is searched for them
without a fault. Left operands that are alike have the same key. Readable operands with the same key
are alike: walked in parallel, they have as many nodes, the same kinds and the same texts of leaves
up to blanks. A finding about inconsistent operators is made exactly for two comparisons with the
same key and different boundary operators. -/
theorem logicDetector_operands {source : Text} {root : ParseTree}
    (hsource : source.any Utf8.isSurrogate = false) (hroot : root.tag.hasError = false)
    (htypes : root.OwnTypes) :
    ∃ node found, parseSource source root = .ok node ∧ logicDetector.detect node = .ok found ∧
      (∀ c ∈ Logic.comparisonsOf node.preorder, ∀ c' ∈ Logic.comparisonsOf node.preorder,
        (c.1.Alike c'.1 → c.1.serialize = c'.1.serialize) ∧
        (c.1.Readable → c'.1.Readable → c.1.serialize = c'.1.serialize → c.1.Alike c'.1)) ∧
      ∀ x : Finding, x.title = "Inconsistent Comparison Operators" →
        (x ∈ found ↔ ∃ c ∈ Logic.comparisonsOf node.preorder,
          ∃ c' ∈ Logic.comparisonsOf node.preorder, Logic.Clash c c' ∧
            x = Logic.inconsistentOperators
              (Logic.boundaryOf c.1.serialize (Logic.comparisonsOf node.preorder))) := by
  obtain ⟨node, hnode, hconsistent⟩ := exists_consistent_parseSource hsource hroot htypes
  have hdetect := (logicDetector_yields node).eq_ok hconsistent
  rw [Logic.addAll_nil] at hdetect
  refine ⟨node, _, hnode, hdetect, ?_, ?_⟩
  · intro c _ c' _
    exact ⟨Node.serialize_eq_of_alike, Node.alike_of_serialize_eq⟩
  · intro x htitle
    rw [← Logic.mem_comparisonFindings_grouped, List.mem_append]
    refine or_iff_left ?_
    intro hx
    obtain ⟨n, -, hn⟩ := List.mem_flatMap.1 hx
    rw [Logic.title_of_mem_verdict hn] at htitle
    exact absurd htitle (by decide)

/-- Two conditions, on a sum and on a difference. -/
def conditions : Text :=
  "if(a+b<c);if(a-b<=c);"

/-- The concrete tree of the conditions. -/
def conditionsTree : ParseTree :=
  .mk ⟨"source_file", 0, 21, true, false, false, none⟩
    [.mk ⟨"if_statement", 0, 10, true, false, false, none⟩
      [.mk ⟨"binary_expression", 3, 8, true, false, false, some "condition"⟩
        [.mk ⟨"binary_expression", 3, 6, true, false, false, some "left"⟩
          [.mk ⟨"identifier", 3, 4, true, false, false, some "left"⟩ [],
           .mk ⟨"+", 4, 5, false, false, false, some "operator"⟩ [],
           .mk ⟨"identifier", 5, 6, true, false, false, some "right"⟩ []],
         .mk ⟨"<", 6, 7, false, false, false, some "operator"⟩ [],
         .mk ⟨"identifier", 7, 8, true, false, false, some "right"⟩ []]],
     .mk ⟨"if_statement", 10, 21, true, false, false, none⟩
      [.mk ⟨"binary_expression", 13, 19, true, false, false, some "condition"⟩
        [.mk ⟨"binary_expression", 13, 16, true, false, false, some "left"⟩
          [.mk ⟨"identifier", 13, 14, true, false, false, some "left"⟩ [],
           .mk ⟨"-", 14, 15, false, false, false, some "operator"⟩ [],
           .mk ⟨"identifier", 15, 16, true, false, false, some "right"⟩ []],
         .mk ⟨"<=", 16, 18, false, false, false, some "operator"⟩ [],
         .mk ⟨"identifier", 18, 19, true, false, false, some "right"⟩ []]]]

/-- What the conditions lead to: one finding, and two operands of one form. -/
lemma detect_conditions : ∃ node, parseSource conditions conditionsTree = .ok node ∧
    logicDetector.detect node = .ok [Logic.inconsistentOperators ["<", "<="]] ∧
    (Logic.comparisonsOf node.preorder).map
        (fun c => (c.1.serialize, c.1.binary?.map Prod.fst, decide c.1.Readable)) =
      [("BinaryOperation[Identifier(a),Identifier(b)]", some "+", true),
       ("BinaryOperation[Identifier(a),Identifier(b)]", some "-", true)] := by
  have hrun : ((parseSource conditions conditionsTree).toOption.map fun node =>
      ((logicDetector.detect node).toOption, (Logic.comparisonsOf node.preorder).map
        fun c => (c.1.serialize, c.1.binary?.map Prod.fst, decide c.1.Readable))) =
      some (some [Logic.inconsistentOperators ["<", "<="]],
        [("BinaryOperation[Identifier(a),Identifier(b)]", some "+", true),
         ("BinaryOperation[Identifier(a),Identifier(b)]", some "-", true)]) := by
    decide +kernel
  obtain ⟨node, hnode, hpair⟩ := Option.map_eq_some_iff.1 hrun
  obtain ⟨hfound, hcomparisons⟩ := Prod.mk.inj hpair
  exact ⟨node, eq_ok_of_toOption hnode, eq_ok_of_toOption hfound, hcomparisons⟩

/-- The tree of the example has types of its own. -/
lemma ownTypes_conditionsTree : conditionsTree.OwnTypes := by
  unfold ParseTree.OwnTypes
  decide

/-- Two conditions that compare one operand in two ways. -/
theorem logicDetector_operands_conditions :
    conditions.any Utf8.isSurrogate = false ∧ conditionsTree.tag.hasError = false ∧
      conditionsTree.OwnTypes ∧
      ∃ node, parseSource conditions conditionsTree = .ok node ∧
        logicDetector.detect node = .ok [Logic.inconsistentOperators ["<", "<="]] ∧
        ∃ c ∈ Logic.comparisonsOf node.preorder, ∃ c' ∈ Logic.comparisonsOf node.preorder,
          Logic.Clash c c' ∧ c.1.Readable ∧ c'.1.Readable ∧ c.1.Alike c'.1 := by
  have hsource : conditions.any Utf8.isSurrogate = false := by decide
  obtain ⟨node', hnode', hdetect', hcomparisons⟩ := detect_conditions
  obtain ⟨node, found, hnode, hdetect, halike, hfindings⟩ :=
    logicDetector_operands hsource rfl ownTypes_conditionsTree
  obtain rfl : node' = node := Except.ok.inj (hnode'.symm.trans hnode)
  obtain rfl : found = _ := Except.ok.inj (hdetect.symm.trans hdetect')
  have hreadable : ∀ c ∈ Logic.comparisonsOf node'.preorder, c.1.Readable := by
    intro c hc
    have hmem := List.mem_map_of_mem
      (f := fun c => (c.1.serialize, c.1.binary?.map Prod.fst, decide c.1.Readable)) hc
    rw [hcomparisons] at hmem
    simp only [List.mem_cons, Prod.mk.injEq, List.not_mem_nil, or_false] at hmem
    rcases hmem with ⟨-, -, h⟩ | ⟨-, -, h⟩ <;> exact of_decide_eq_true h
  obtain ⟨c, hc, c', hc', hclash, -⟩ :=
    (hfindings (Logic.inconsistentOperators ["<", "<="]) rfl).1 List.mem_cons_self
  exact ⟨hsource, rfl, ownTypes_conditionsTree, node', hnode', hdetect', c, hc, c', hc', hclash,
    hreadable c hc, hreadable c' hc', (halike c hc c' hc').2 (hreadable c hc)
      (hreadable c' hc') hclash.form⟩

/-- Conditions on a sum and on a difference share a key, and are reported as if they were on one
operand. -/
theorem logicDetector_mixes_operands :
    conditions.any Utf8.isSurrogate = false ∧ conditionsTree.tag.hasError = false ∧
      conditionsTree.OwnTypes ∧
      ∃ node, parseSource conditions conditionsTree = .ok node ∧
        logicDetector.detect node = .ok [Logic.inconsistentOperators ["<", "<="]] ∧
        ∃ c ∈ Logic.comparisonsOf node.preorder, ∃ c' ∈ Logic.comparisonsOf node.preorder,
          c.1.serialize = c'.1.serialize ∧ c.1.binary?.map Prod.fst = some "+" ∧
            c'.1.binary?.map Prod.fst = some "-" := by
  obtain ⟨node, hnode, hdetect, hcomparisons⟩ := detect_conditions
  obtain ⟨c, more, hcons, hc, hmore⟩ := List.map_eq_cons_iff.1 hcomparisons
  obtain ⟨c', rest, hcons', hc', -⟩ := List.map_eq_cons_iff.1 hmore
  simp only [Prod.mk.injEq] at hc hc'
  rw [hcons'] at hcons
  refine ⟨by decide, rfl, ownTypes_conditionsTree, node, hnode, hdetect, c, ?_, c', ?_,
    hc.1.trans hc'.1.symm, hc.2.1, hc'.2.1⟩
  · rw [hcons]
    exact List.mem_cons_self
  · rw [hcons]
    exact List.mem_cons_of_mem _ List.mem_cons_self

end ContractAudit
