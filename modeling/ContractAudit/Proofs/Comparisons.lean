import ContractAudit.Proofs.Tables
import ContractAudit.Proofs.Verdicts

/-!
# Comparisons by operand

The pass for logic errors notes the comparisons of `if` statements one by one in a table. After any
comparisons the table is what one gets by grouping them: there is a row for each form of a left
operand, in the order of first sight, with the operators that were seen with it, also in this order
and without repetition (`Logic.addAll_nil`). Operators that are no boundary operators are only left
out at the end. That comes to the same as leaving them out at the beginning, except for the order of
the rows: `logicDetector_groupBy`.
-/

namespace ContractAudit

/-! ## The table of comparisons -/

namespace Logic

/-- The forms of the left operands of comparisons, in the order of first sight. -/
def keysOf (comparisons : List (Node × String)) : List String :=
  (comparisons.map fun c => c.1.serialize).eraseDups

/-- The operators of the comparisons whose left operand has a form. -/
def operatorsOf (key : String) (comparisons : List (Node × String)) : List String :=
  (comparisons.filter fun c => c.1.serialize == key).map Prod.snd

/-- One more comparison adds its form at the end, unless the form is known. -/
lemma keysOf_concat (comparisons : List (Node × String)) (c : Node × String) :
    keysOf (comparisons ++ [c]) =
      if c.1.serialize ∈ keysOf comparisons then keysOf comparisons
      else keysOf comparisons ++ [c.1.serialize] := by
  simp only [keysOf, List.map_append, List.map_cons, List.map_nil, eraseDups_concat,
    List.mem_eraseDups]

/-- One more comparison adds its operator to those of its form. -/
lemma operatorsOf_concat_self (comparisons : List (Node × String)) (c : Node × String) :
    operatorsOf c.1.serialize (comparisons ++ [c]) =
      operatorsOf c.1.serialize comparisons ++ [c.2] := by
  simp [operatorsOf]

/-- One more comparison leaves the operators of other forms alone. -/
lemma operatorsOf_concat_of_ne {key : String} {c : Node × String} (h : key ≠ c.1.serialize)
    (comparisons : List (Node × String)) :
    operatorsOf key (comparisons ++ [c]) = operatorsOf key comparisons := by
  simp [operatorsOf, Ne.symm h]

/-- A form that was not seen has no operators. -/
lemma operatorsOf_of_not_mem {key : String} {comparisons : List (Node × String)}
    (h : key ∉ keysOf comparisons) : operatorsOf key comparisons = [] := by
  rw [keysOf, List.mem_eraseDups] at h
  rw [operatorsOf, List.map_eq_nil_iff, List.filter_eq_nil_iff]
  intro c hc heq
  exact h (List.mem_map.2 ⟨c, hc, beq_iff_eq.1 heq⟩)

/-- The comparisons grouped by the form of the left operand. -/
def grouped (comparisons : List (Node × String)) : Comparisons :=
  (keysOf comparisons).map fun key => (key, (operatorsOf key comparisons).eraseDups)

/-- The table has the operators of a form, or none. -/
lemma getD_lookup?_grouped (key : String) (comparisons : List (Node × String)) :
    (lookup? key (grouped comparisons)).getD [] = (operatorsOf key comparisons).eraseDups := by
  rw [grouped, lookup?_map]
  split
  · rfl
  · rename_i hkey
    rw [operatorsOf_of_not_mem hkey]
    rfl

/-- One more comparison is added to its group. -/
lemma add_grouped (comparisons : List (Node × String)) (c : Node × String) :
    (grouped comparisons).add c.1.serialize c.2 = grouped (comparisons ++ [c]) := by
  have hoperators : (if (operatorsOf c.1.serialize comparisons).eraseDups.contains c.2 then
      (operatorsOf c.1.serialize comparisons).eraseDups
      else (operatorsOf c.1.serialize comparisons).eraseDups ++ [c.2]) =
      (operatorsOf c.1.serialize (comparisons ++ [c])).eraseDups := by
    simp only [operatorsOf_concat_self, eraseDups_concat, List.contains_iff_mem,
      List.mem_eraseDups]
  have hkeys : (keysOf comparisons).Nodup := nodup_eraseDups _
  rw [Comparisons.add, getD_lookup?_grouped, hoperators, grouped, upsert_map hkeys, grouped,
    keysOf_concat]
  apply List.map_congr_left
  intro key _
  by_cases h : key = c.1.serialize
  · rw [if_pos h, h]
  · rw [if_neg h, operatorsOf_concat_of_ne h]

/-- The table after some comparisons is the comparisons grouped. -/
lemma addAll_nil (comparisons : List (Node × String)) :
    Comparisons.addAll [] comparisons = grouped comparisons := by
  induction comparisons using List.reverseRecOn with
  | nil => rfl
  | append_singleton comparisons c ih =>
    rw [← add_grouped, ← ih, Comparisons.addAll, List.foldl_append]
    rfl

/-- The boundary operators with which operands of a form are compared, in the order of first sight
and without repetition. -/
def boundaryOf (key : String) (comparisons : List (Node × String)) : List String :=
  ((operatorsOf key comparisons).filter boundaryOperators.contains).eraseDups

/-- What is found about the groups. -/
lemma comparisonFindings_grouped (comparisons : List (Node × String)) :
    comparisonFindings (grouped comparisons) =
      (keysOf comparisons).filterMap fun key =>
        if 1 < (boundaryOf key comparisons).length then
          some (inconsistentOperators (boundaryOf key comparisons))
        else none := by
  rw [comparisonFindings, grouped, List.filterMap_map]
  apply List.filterMap_congr
  intro key _
  rw [boundaryOf, ← filter_eraseDups]
  rfl

end Logic

end ContractAudit
