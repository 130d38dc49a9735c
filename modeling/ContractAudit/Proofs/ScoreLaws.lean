import ContractAudit.Proofs.Scores
import Mathlib.Algebra.BigOperators.Ring.Finset
import Mathlib.Algebra.Order.BigOperators.Group.List
import Mathlib.Algebra.Order.Ring.Nat

/-!
# Scores of different lists of issues

What a list of issues takes from a score is written as a sum over all categories: one that does not
occur takes nothing. Each category has its own term, which depends on the number of its issues only,
never falls with it and is subadditive in it (`Weights.deduction_mono`, `Weights.deduction_add_le`).
The main statement is `overall_laws`.
-/

namespace ContractAudit

namespace Weights

variable {w w' : Weights} {c : Category} {m n : Nat}

/-- Without issues of a category nothing is deducted for it. -/
lemma deduction_zero : w.deduction c 0 = 0 := by
  unfold deduction
  cases w.cap <;> simp

/-- More findings of a category take away as much or more. -/
lemma deduction_mono (h : m ≤ n) : w.deduction c m ≤ w.deduction c n := by
  have hproduct : w.weightFor c * m ≤ w.weightFor c * n := Nat.mul_le_mul_left _ h
  unfold deduction
  cases w.cap with
  | none => exact hproduct
  | some most => exact Nat.le_min.2 ⟨(Nat.min_le_left _ _).trans hproduct, Nat.min_le_right _ _⟩

/-- Findings of a category take away no more together than in two parts, where the cap is applied
to each part. -/
lemma deduction_add_le : w.deduction c (m + n) ≤ w.deduction c m + w.deduction c n := by
  unfold deduction
  cases w.cap with
  | none => exact Nat.le_of_eq (Nat.mul_add _ _ _)
  | some most =>
    simp only [Nat.mul_add]
    omega

/-- Only the weights of categories and the cap take anything away. -/
lemma deduction_congr (hcategory : w.category = w'.category) (hcap : w.cap = w'.cap) :
    w.deduction c n = w'.deduction c n := by
  simp only [deduction, weightFor, hcategory, hcap]

/-- What a list of issues takes away, category by category. -/
def points (w : Weights) (issues : List Issue) : Nat :=
  (Category.all.map fun c => w.deduction c (countOfCategory issues c)).sum

variable {a b : List Issue}

/-- The categories that do not occur add nothing. -/
lemma sum_categoriesOf (w : Weights) (issues : List Issue) :
    ((categoriesOf issues).map fun c => w.deduction c (countOfCategory issues c)).sum =
      w.points issues := by
  have hsome : (categoriesOf issues).Nodup := nodup_eraseDups _
  have hall : Category.all.Nodup := by decide
  rw [points, ← List.sum_toFinset _ hsome, ← List.sum_toFinset _ hall]
  apply Finset.sum_subset
  · intro c _
    exact List.mem_toFinset.2 c.mem_all
  · intro c _ hc
    have hnone : countOfCategory issues c = 0 := by
      rw [countOfCategory, List.countP_eq_zero]
      intro i hi
      rw [List.mem_toFinset, categoriesOf, List.mem_eraseDups, List.mem_map] at hc
      rw [beq_iff_eq]
      exact fun h => hc ⟨i, hi, h⟩
    rw [hnone, deduction_zero]

/-- What issues take away depends on nothing but their categories, in any order. -/
lemma points_congr (hdeduction : ∀ c n, w.deduction c n = w'.deduction c n)
    (h : (a.map fun i => i.finding.category).Perm (b.map fun i => i.finding.category)) :
    w.points a = w'.points b := by
  have hcount : ∀ c, countOfCategory a c = countOfCategory b c := by
    intro c
    have hcategories := h.countP_eq (· == c)
    rw [List.countP_map, List.countP_map] at hcategories
    exact hcategories
  simp only [points, hdeduction, hcount]

/-- Counts add up over two lists of issues. -/
lemma countOfCategory_append (a b : List Issue) (c : Category) :
    countOfCategory (a ++ b) c = countOfCategory a c + countOfCategory b c :=
  List.countP_append

/-- More issues do not cost less. -/
lemma points_le_append (w : Weights) (a b : List Issue) : w.points a ≤ w.points (a ++ b) := by
  apply List.sum_le_sum
  intro c _
  apply deduction_mono
  rw [countOfCategory_append]
  exact Nat.le_add_right _ _

/-- Issues cost together at most what they cost apart. -/
lemma points_append_le (w : Weights) (a b : List Issue) :
    w.points (a ++ b) ≤ w.points a + w.points b := by
  simp only [points]
  rw [← List.sum_map_add]
  apply List.sum_le_sum
  intro c _
  rw [countOfCategory_append]
  exact deduction_add_le

end Weights

/-- A score is what is left of 100 points. -/
lemma overall_scoreOf (w : Weights) (address : Text) (issues : List Issue) (timestamp : Int) :
    (scoreOf w address issues timestamp).overall = max 0 (100 - (w.points issues : Int)) := by
  have hsum : ((breakdownOf w issues).categoryScores.map Prod.snd).sum =
      -(w.points issues : Int) := by
    rw [categoryScores_breakdownOf, ← Weights.sum_categoriesOf, Nat.cast_list_sum, List.sum_neg,
      List.map_map, List.map_map, List.map_map]
    rfl
  have hnonpos : ∀ row ∈ (breakdownOf w issues).categoryScores, row.2 ≤ 0 := by
    rw [categoryScores_breakdownOf, List.forall_mem_map]
    intro c _
    exact Int.neg_nonpos_of_nonneg (Int.natCast_nonneg _)
  have hoverall := overallScore_eq hnonpos
  rw [hsum, ← Int.sub_eq_add_neg] at hoverall
  exact hoverall

/-- With accepted weights, the score of a list of issues depends on nothing but the categories in it
and the weights and the cap for categories, whatever their order is and whatever the issues,
the weights of severities, the address and the time are otherwise. More issues never raise it, and
two lists together lose no more points than the lists lose apart. -/
theorem overall_laws {severity severity' : List (Severity × Int)}
    {category : List (Category × Int)} {cap : Option Int} {w w' : Weights}
    (hw : Weights.make severity category cap = .ok w)
    (hw' : Weights.make severity' category cap = .ok w') (address address' : Text)
    (a b : List Issue) (timestamp timestamp' : Int) :
    ((a.map fun i => i.finding.category).Perm (b.map fun i => i.finding.category) →
        (scoreOf w address a timestamp).overall = (scoreOf w' address' b timestamp').overall) ∧
      (scoreOf w address (a ++ b) timestamp).overall ≤ (scoreOf w address a timestamp).overall ∧
      (scoreOf w address a timestamp).overall + (scoreOf w address b timestamp).overall - 100 ≤
        (scoreOf w address (a ++ b) timestamp).overall := by
  have hsame : ∀ c n, w.deduction c n = w'.deduction c n := by
    obtain ⟨-, rfl⟩ := Weights.make_eq_ok_iff.1 hw
    obtain ⟨-, rfl⟩ := Weights.make_eq_ok_iff.1 hw'
    exact fun c n => Weights.deduction_congr rfl rfl
  have hmore := w.points_le_append a b
  have htogether := w.points_append_le a b
  simp only [overall_scoreOf]
  refine ⟨fun h => by rw [Weights.points_congr hsame h], ?_, ?_⟩
  · omega
  · omega

/-- Three issues of a category that reaches the cap with them, around one of another category. -/
def cappedIssues : List Issue :=
  [issueOf .reentrancy .high, issueOf .logicError .low, issueOf .reentrancy .high,
    issueOf .reentrancy .medium]

/-- The same categories in another order and with other severities. -/
def reorderedIssues : List Issue :=
  [issueOf .logicError .high, issueOf .reentrancy .low, issueOf .reentrancy .informational,
    issueOf .reentrancy .low]

/-- Issues in another order, with other severities, at another time. -/
theorem overall_laws_reorderedIssues :
    ∃ w w', Weights.make [(.high, 7)] [(.reentrancy, 20), (.logicError, 3)] (some 50) = .ok w ∧
      Weights.make [] [(.reentrancy, 20), (.logicError, 3)] (some 50) = .ok w' ∧
      (scoreOf w [] cappedIssues 0).overall = (scoreOf w' [] reorderedIssues 9).overall ∧
      (scoreOf w [] (cappedIssues ++ reorderedIssues) 0).overall ≤
        (scoreOf w [] cappedIssues 0).overall ∧
      (scoreOf w [] cappedIssues 0).overall + (scoreOf w [] reorderedIssues 0).overall - 100 ≤
        (scoreOf w [] (cappedIssues ++ reorderedIssues) 0).overall := by
  have hw : Weights.make [(.high, 7)] [(.reentrancy, 20), (.logicError, 3)] (some 50) =
      .ok ⟨[(.high, 7)], [(.reentrancy, 20), (.logicError, 3)], some 50⟩ := rfl
  have hw' : Weights.make [] [(.reentrancy, 20), (.logicError, 3)] (some 50) =
      .ok ⟨[], [(.reentrancy, 20), (.logicError, 3)], some 50⟩ := rfl
  obtain ⟨hsame, hmore, htogether⟩ := overall_laws hw hw' [] [] cappedIssues reorderedIssues 0 9
  exact ⟨_, _, hw, hw', hsame (by decide), hmore, htogether⟩

end ContractAudit
