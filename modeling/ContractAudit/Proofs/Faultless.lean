import ContractAudit.Proofs.FaultRecords
import ContractAudit.Proofs.Verdicts

/-!
# Runs without faults

In a consistent tree no handler of a default detector fails. A typed tree of a text is consistent,
so on it the default detectors never fail, and a shared run records no fault and drops no findings:
that is the main statement, `runDetectors_faultless`.
-/

namespace ContractAudit

/-- The handlers of a default detector have effects at everything that is reached, and there is
always something to end with. -/
lemma exists_performs_of_mem_defaultDetectors {d : Detector} (h : d ∈ defaultDetectors)
    (root : Node) :
    ∃ s table effects, d.register = .ok (s, table) ∧ table.Performs root effects ∧
      ∀ s', ∃ found, d.finish s' = .ok found := by
  simp only [defaultDetectors, List.mem_cons, List.not_mem_nil, or_false] at h
  rcases h with rfl | rfl | rfl | rfl
  · exact ⟨_, _, _, rfl, performs_collect fun _ hn hkind => Reentrancy.check_yields hn hkind,
      fun s' => ⟨s', rfl⟩⟩
  · exact ⟨_, _, _, rfl, performs_collect fun _ hn hkind => AccessControl.check_yields hn hkind,
      fun s' => ⟨s', rfl⟩⟩
  · exact ⟨_, _, _, rfl, performs_collect fun _ hn hkind => Gas.check_yields hn hkind,
      fun s' => ⟨s', rfl⟩⟩
  · exact ⟨_, _, _, rfl, Logic.performs_handlers, fun s' => ⟨_, rfl⟩⟩

/-- A handler with a known effect does not fail in a consistent tree. -/
lemma HandlerTable.Performs.fault_eq_none {σ : Type} {root : Node} {table : HandlerTable σ}
    {effects : Effects σ} (h : table.Performs root effects) (hroot : root.Consistent)
    {row : String × Handler σ} (hrow : row ∈ table) {n : Node} (hn : root.Within n)
    (hkind : n.kind = row.1) (s : σ) :
    (row.2 s n).fault = none := by
  obtain ⟨effect, -, -, heffect⟩ := exists_mem_of_forall₂ h hrow
  rcases heffect s n hn hkind with hleft | ⟨-, hnot⟩
  · rw [hleft]
  · exact absurd hroot hnot

/-- If no detector fails alone, a shared run records no fault. -/
lemma snd_runDetectors_of_detect {root : Node} {ds : List Detector}
    (h : ∀ d ∈ ds, ∃ found, d.detect root = .ok found) : (runDetectors root ds).2 = [] := by
  have hnone : ds.filterMap (fun d => d.faultRecord? root) = [] := by
    rw [List.filterMap_eq_nil_iff]
    intro d hd
    exact Detector.faultRecord?_eq_none_iff.2 (Detector.stage?_eq_none_iff.2 (h d hd))
  rw [snd_runDetectors, ← List.perm_nil, ← hnone]
  exact orderedFaults_perm root ds

/-- A default detector does not fail alone on a consistent tree. -/
lemma exists_detect_eq_ok_of_mem_defaultDetectors {d : Detector} (h : d ∈ defaultDetectors)
    {root : Node} (hroot : root.Consistent) : ∃ found, d.detect root = .ok found := by
  obtain ⟨s, table, effects, hregister, htable, hfinish⟩ :=
    exists_performs_of_mem_defaultDetectors h root
  obtain ⟨found, hfound⟩ := hfinish (root.preorder.foldl effects.atNode s)
  exact ⟨found, (d.detect_yields hregister htable hfound).eq_ok hroot⟩

/-- The default detectors never fail on a typed tree of a text. Every node of the tree whose kind
asks for attributes has those of its kind. So each detector can be registered, none of its handlers
fails at any node of the tree, whatever the state, and it always ends with findings. A shared run
then records no fault, and it has all findings that the detectors make alone. -/
theorem runDetectors_faultless {source : Text} {root : ParseTree}
    (hsource : source.any Utf8.isSurrogate = false) (hroot : root.tag.hasError = false)
    (htypes : root.OwnTypes) :
    ∃ node, parseSource source root = .ok node ∧
      (∀ n ∈ node.preorder, n.kind ∈ Node.detailedKinds → n.detail.kind? = some n.kind) ∧
      (∀ d ∈ defaultDetectors, ∃ s table, d.register = .ok (s, table) ∧
        (∀ row ∈ table, ∀ n ∈ node.preorder, n.kind = row.1 →
          ∀ s', (row.2 s' n).fault = none) ∧
        ∀ s', ∃ found, d.finish s' = .ok found) ∧
      (runDetectors node defaultDetectors).2 = [] ∧
      ∃ found : Detector → List Finding,
        (∀ d ∈ defaultDetectors, d.detect node = .ok (found d)) ∧
        (runDetectors node defaultDetectors).1 = defaultDetectors.flatMap found := by
  obtain ⟨node, hnode, hconsistent⟩ := exists_consistent_parseSource hsource hroot htypes
  have hwithin : ∀ n ∈ node.preorder, node.Within n := fun n hn => .of_mem_preorder node .root hn
  refine ⟨node, hnode, ?_, ?_, ?_, fun d => d.foundOver node, ?_, fst_runDetectors _ _⟩
  · intro n hn hkind
    exact (hconsistent n (hwithin n hn)).kind?_eq hkind
  · intro d hd
    obtain ⟨s, table, effects, hregister, htable, hfinish⟩ :=
      exists_performs_of_mem_defaultDetectors hd node
    refine ⟨s, table, hregister, ?_, hfinish⟩
    intro row hrow n hn hkind s'
    exact htable.fault_eq_none hconsistent hrow (hwithin n hn) hkind s'
  · apply snd_runDetectors_of_detect
    intro d hd
    exact exists_detect_eq_ok_of_mem_defaultDetectors hd hconsistent
  · intro d hd
    obtain ⟨found, hfound⟩ := exists_detect_eq_ok_of_mem_defaultDetectors hd hconsistent
    simp only [d.foundOver_eq, hfound]

/-- A function that pays out and then notes that it has. -/
def payout : Text :=
  "function f() \x7b\nb.send();\nc = 1;\n\x7d"

/-- The concrete tree of the function. -/
def payoutTree : ParseTree :=
  .mk ⟨"source_file", 0, 33, true, false, false, none⟩
    [.mk ⟨"function_definition", 0, 33, true, false, false, none⟩
      [.mk ⟨"function", 0, 8, false, false, false, none⟩ [],
       .mk ⟨"identifier", 9, 10, true, false, false, some "name"⟩ [],
       .mk ⟨"function_body", 13, 33, true, false, false, some "body"⟩
        [.mk ⟨"expression_statement", 15, 24, true, false, false, none⟩
          [.mk ⟨"call_expression", 15, 23, true, false, false, none⟩
            [.mk ⟨"member_expression", 15, 21, true, false, false, some "function"⟩
              [.mk ⟨"identifier", 15, 16, true, false, false, none⟩ [],
               .mk ⟨"identifier", 17, 21, true, false, false, some "property"⟩ []]]],
         .mk ⟨"expression_statement", 25, 31, true, false, false, none⟩
          [.mk ⟨"assignment_expression", 25, 30, true, false, false, none⟩
            [.mk ⟨"identifier", 25, 26, true, false, false, some "left"⟩ [],
             .mk ⟨"=", 27, 28, false, false, false, none⟩ [],
             .mk ⟨"number_literal", 29, 30, true, false, false, some "right"⟩ []]]]]]

/-- A payout before an assignment is found, and nothing goes wrong. -/
theorem runDetectors_faultless_payout :
    payout.any Utf8.isSurrogate = false ∧ payoutTree.tag.hasError = false ∧
      payoutTree.OwnTypes ∧
      ∃ node, parseSource payout payoutTree = .ok node ∧
        (runDetectors node defaultDetectors).2 = [] ∧
        (runDetectors node defaultDetectors).1 = [Reentrancy.finding "f" ⟨2, 0⟩] := by
  have hsource : payout.any Utf8.isSurrogate = false := by decide
  have htypes : payoutTree.OwnTypes := by
    unfold ParseTree.OwnTypes
    decide
  have hrun : ((parseSource payout payoutTree).toOption.map fun node =>
      (runDetectors node defaultDetectors).1) = some [Reentrancy.finding "f" ⟨2, 0⟩] := by
    decide +kernel
  obtain ⟨node, hnode, -, -, hrecords, -⟩ := runDetectors_faultless hsource rfl htypes
  rw [hnode] at hrun
  exact ⟨hsource, rfl, htypes, node, hnode, hrecords, Option.some.inj hrun⟩

end ContractAudit
