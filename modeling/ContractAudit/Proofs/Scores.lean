import ContractAudit.Proofs.Tables
import ContractAudit.Report
import Mathlib.Algebra.BigOperators.Group.List.Lemmas
import Mathlib.Algebra.Order.Ring.Int

/-!
# What a score is made of

A score is made by counting the categories of issues one by one and by taking away what the
categories cost one after the other. `Score.Accounts` says what comes of it without any counting:
the score is 100 less the capped costs of the categories, and the breakdown has exact counts that
add up. The main statement is `scoreOf_accounts`, for all weights that are accepted. In particular a
report never refuses a score (`reportOf_eq_ok_iff`, `Score.InRange`).
-/

namespace ContractAudit

/-! ## Tallies -/

section Tallies

variable {κ : Type} [DecidableEq κ]

/-- One more key adds one to its count. -/
lemma tally_concat (keys : List κ) (k : κ) :
    tally (keys ++ [k]) = upsert k ((lookup? k (tally keys)).getD 0 + 1) (tally keys) := by
  rw [tally, List.foldl_append]
  rfl

/-- A tally has a row for each key that occurs, in the order of first sight, with its count. -/
lemma tally_eq (keys : List κ) :
    tally keys = keys.eraseDups.map fun k => (k, keys.count k) := by
  induction keys using List.reverseRecOn with
  | nil => rfl
  | append_singleton keys k ih =>
    have hcount : (lookup? k (tally keys)).getD 0 = keys.count k := by
      rw [ih, lookup?_map]
      split
      · rfl
      · rename_i hk
        exact (List.count_eq_zero_of_not_mem (mt List.mem_eraseDups.2 hk)).symm
    rw [tally_concat, hcount, ih, upsert_map (nodup_eraseDups keys), eraseDups_concat]
    simp only [List.mem_eraseDups]
    apply List.map_congr_left
    intro k' _
    by_cases h : k' = k
    · simp [h]
    · simp [h, Ne.symm h]

/-- The counts of a tally add up to the number of all that was counted. -/
lemma sum_tally (keys : List κ) : ((tally keys).map Prod.snd).sum = keys.length := by
  -- the two ways to drop duplicates keep the same keys, but in different orders
  have hperm : keys.eraseDups.Perm keys.dedup := by
    apply (List.perm_ext_iff_of_nodup (nodup_eraseDups keys) keys.nodup_dedup).2
    intro k
    rw [List.mem_eraseDups, List.mem_dedup]
  rw [tally_eq, List.map_map, ← List.sum_map_count_dedup_eq_length keys]
  exact (hperm.map _).sum_eq

end Tallies

/-! ## Accepted weights -/

namespace Weights

variable {severity : List (Severity × Int)} {category : List (Category × Int)} {cap : Option Int}
  {w : Weights}

/-- No key is negative exactly if no value is. -/
lemma isEmpty_negativeKeys_iff {κ : Type} {rows : List (κ × Int)} :
    (negativeKeys rows).isEmpty = true ↔ ∀ row ∈ rows, 0 ≤ row.2 := by
  simp [negativeKeys, List.filter_eq_nil_iff]

/-- Exactly the tables and caps without negative numbers are accepted. -/
lemma make_eq_ok_iff :
    make severity category cap = .ok w ↔
      ((∀ c ∈ cap, 0 ≤ c) ∧ (∀ row ∈ severity, 0 ≤ row.2) ∧ ∀ row ∈ category, 0 ≤ row.2) ∧
        w = ⟨unsigned severity, unsigned category, cap.map Int.toNat⟩ := by
  have hcap : (cap.map fun c => decide (c < 0)).getD false = true ↔ ¬ ∀ c ∈ cap, 0 ≤ c := by
    cases cap <;> simp
  unfold make
  split
  · rename_i h
    exact iff_of_false (by intro h; cases h) fun h' => hcap.1 h h'.1.1
  · rename_i h
    split
    · rename_i hseverity
      refine iff_of_false (by intro h; cases h) fun h' => ?_
      rw [isEmpty_negativeKeys_iff.2 h'.1.2.1] at hseverity
      cases hseverity
    · rename_i hseverity
      split
      · rename_i hcategory
        refine iff_of_false (by intro h; cases h) fun h' => ?_
        rw [isEmpty_negativeKeys_iff.2 h'.1.2.2] at hcategory
        cases hcategory
      · rename_i hcategory
        simp only [Bool.not_eq_true', Bool.not_eq_false] at hseverity hcategory
        have haccepted : (∀ c ∈ cap, 0 ≤ c) ∧ (∀ row ∈ severity, 0 ≤ row.2) ∧
            ∀ row ∈ category, 0 ≤ row.2 :=
          ⟨not_not.1 (mt hcap.2 h), isEmpty_negativeKeys_iff.1 hseverity,
            isEmpty_negativeKeys_iff.1 hcategory⟩
        rw [Except.ok.injEq]
        exact ⟨fun h => ⟨haccepted, h.symm⟩, fun h => h.2.symm⟩

/-- Weights are accepted exactly if the cap and all of them are at least zero. -/
lemma exists_make_eq_ok_iff :
    (∃ w, make severity category cap = .ok w) ↔
      (∀ c ∈ cap, 0 ≤ c) ∧ (∀ row ∈ severity, 0 ≤ row.2) ∧ ∀ row ∈ category, 0 ≤ row.2 := by
  constructor
  · rintro ⟨w, h⟩
    exact (make_eq_ok_iff.1 h).1
  · intro h
    exact ⟨_, make_eq_ok_iff.2 ⟨h, rfl⟩⟩

/-- A weight is found without its sign. -/
lemma lookup?_unsigned {κ : Type} [BEq κ] (key : κ) (rows : List (κ × Int)) :
    lookup? key (unsigned rows) = (lookup? key rows).map Int.toNat := by
  induction rows with
  | nil => rfl
  | cons row rows ih =>
    rw [unsigned, List.map_cons, lookup?, lookup?, ← unsigned, ih]
    split <;> rfl

/-- A weight that is found, or zero, is at least zero. -/
lemma lookup?_nonneg {κ : Type} [BEq κ] (key : κ) {rows : List (κ × Int)}
    (h : ∀ row ∈ rows, 0 ≤ row.2) : 0 ≤ (lookup? key rows).getD 0 := by
  induction rows with
  | nil => exact Int.le_refl 0
  | cons row rows ih =>
    rw [lookup?]
    split
    · exact h row List.mem_cons_self
    · exact ih fun r hr => h r (List.mem_cons_of_mem _ hr)

/-- What so many issues of a category cost: the weight of the category for each of them, nothing if
it has none, and no more than the cap. -/
def cost (category : List (Category × Int)) (cap : Option Int) (c : Category) (count : Nat) : Int :=
  match cap with
  | some most => min ((lookup? c category).getD 0 * count) most
  | none => (lookup? c category).getD 0 * count

/-- The weight of a category is the one that was given, or zero. -/
lemma weightFor_of_make (h : make severity category cap = .ok w) (c : Category) :
    (w.weightFor c : Int) = (lookup? c category).getD 0 := by
  obtain ⟨⟨-, -, hcategory⟩, rfl⟩ := make_eq_ok_iff.1 h
  have hweight := lookup?_nonneg c hcategory
  rw [weightFor, lookup?_unsigned]
  cases hc : lookup? c category with
  | none => rfl
  | some weight =>
    rw [hc] at hweight
    exact Int.toNat_of_nonneg hweight

/-- What is deducted for a category is its cost by the given weights. -/
lemma deduction_of_make (h : make severity category cap = .ok w) (c : Category) (count : Nat) :
    (w.deduction c count : Int) = cost category cap c count := by
  have hweight := weightFor_of_make h c
  obtain ⟨⟨hcap, -, -⟩, hw⟩ := make_eq_ok_iff.1 h
  have hmost : w.cap = cap.map Int.toNat := by rw [hw]
  have hproduct : ((w.weightFor c * count : Nat) : Int) = (lookup? c category).getD 0 * count := by
    rw [Int.natCast_mul, hweight]
  cases cap with
  | none => simp only [deduction, hmost, Option.map_none, cost, hproduct]
  | some most =>
    -- the cap is not negative, so that it is the same number without a sign
    have hnonneg : 0 ≤ most := hcap most rfl
    simp only [deduction, hmost, Option.map_some, cost, ← hproduct]
    omega

end Weights

/-! ## Scores -/

/-- Adding up the values of a table gives their sum. -/
lemma foldl_add_eq_sum (rows : List (Category × Int)) (start : Int) :
    rows.foldl (fun s row => s + row.2) start = start + (rows.map Prod.snd).sum := by
  induction rows generalizing start with
  | nil => simp
  | cons row rows ih => rw [List.foldl_cons, ih, List.map_cons, List.sum_cons, Int.add_assoc]

/-- What is taken away is never given back, so that a score is only cut off at zero. -/
lemma overallScore_eq {rows : List (Category × Int)} (h : ∀ row ∈ rows, row.2 ≤ 0) :
    overallScore rows = max 0 (100 + (rows.map Prod.snd).sum) := by
  have hsum : (rows.map Prod.snd).sum ≤ 0 := by
    induction rows with
    | nil => exact Int.le_refl 0
    | cons row rows ih =>
      have hfirst := h row List.mem_cons_self
      have hrest := ih fun r hr => h r (List.mem_cons_of_mem _ hr)
      rw [List.map_cons, List.sum_cons]
      omega
  rw [overallScore, foldl_add_eq_sum, maxScore]
  omega

/-- The categories of issues, in the order of first sight. -/
def categoriesOf (issues : List Issue) : List Category :=
  (issues.map fun i => i.finding.category).eraseDups

/-- The severities of issues, in the order of first sight. -/
def severitiesOf (issues : List Issue) : List Severity :=
  (issues.map fun i => i.finding.severity).eraseDups

/-- How many issues have a category. -/
def countOfCategory (issues : List Issue) (c : Category) : Nat :=
  issues.countP fun i => i.finding.category == c

/-- How many issues have a severity. -/
def countOfSeverity (issues : List Issue) (v : Severity) : Nat :=
  issues.countP fun i => i.finding.severity == v

/-- A breakdown counts the issues of each category that occurs. -/
lemma byCategory_breakdownOf (w : Weights) (issues : List Issue) :
    (breakdownOf w issues).byCategory =
      (categoriesOf issues).map fun c => (c, countOfCategory issues c) := by
  simp only [breakdownOf, tally_eq, categoriesOf, countOfCategory, List.count, List.countP_map]
  rfl

/-- A breakdown counts the issues of each severity that occurs. -/
lemma bySeverity_breakdownOf (w : Weights) (issues : List Issue) :
    (breakdownOf w issues).bySeverity =
      (severitiesOf issues).map fun v => (v, countOfSeverity issues v) := by
  simp only [breakdownOf, tally_eq, severitiesOf, countOfSeverity, List.count, List.countP_map]
  rfl

/-- A breakdown has the deduction for each category that occurs. -/
lemma categoryScores_breakdownOf (w : Weights) (issues : List Issue) :
    (breakdownOf w issues).categoryScores = (categoriesOf issues).map fun c =>
      (c, -(w.deduction c (countOfCategory issues c) : Int)) := by
  have hrows : (breakdownOf w issues).categoryScores =
      (breakdownOf w issues).byCategory.map fun row => (row.1, -(w.deduction row.1 row.2 : Int)) :=
    rfl
  rw [hrows, byCategory_breakdownOf, List.map_map]
  rfl

/-- With accepted weights, each category takes away what it costs. -/
lemma categoryScores_of_make {severity : List (Severity × Int)} {category : List (Category × Int)}
    {cap : Option Int} {w : Weights} (h : Weights.make severity category cap = .ok w)
    (issues : List Issue) :
    (breakdownOf w issues).categoryScores = (categoriesOf issues).map fun c =>
      (c, -Weights.cost category cap c (countOfCategory issues c)) := by
  rw [categoryScores_breakdownOf]
  apply List.map_congr_left
  intro c _
  rw [Weights.deduction_of_make h]

/-! ## Reports -/

/-- A report can carry the score. -/
def Score.InRange (s : Score) : Prop :=
  0 ≤ s.overall ∧ s.overall ≤ 100

/-- A report can carry the name. -/
def Json.IsName (v : Json) : Prop :=
  v = .null ∨ ∃ t, v = .str t ∧ t.toString?.isSome

/-- Nothing is wrong with a text exactly if it is Unicode. -/
lemma unicodeProblem?_eq_none_iff {name : String} {t : Text} :
    unicodeProblem? name t = none ↔ t.toString?.isSome := by
  unfold unicodeProblem?
  cases t.toString? with
  | none => simp
  | some s => simp

/-- Nothing is wrong with a name exactly if a report can carry it. -/
lemma nameProblem?_eq_none_iff {v : Json} : nameProblem? v = none ↔ v.IsName := by
  cases v with
  | null => simp [nameProblem?, Json.IsName]
  | str t => simp [nameProblem?, Json.IsName, unicodeProblem?_eq_none_iff]
  | _ => simp [nameProblem?, Json.IsName]

/-- Nothing is wrong with a score exactly if it is in range. -/
lemma scoreProblem?_eq_none_iff {s : Score} : scoreProblem? s.overall = none ↔ s.InRange := by
  unfold scoreProblem? Score.InRange maxScore
  split
  · exact iff_of_false (by simp) (by omega)
  · split
    · exact iff_of_false (by simp) (by omega)
    · exact iff_of_true rfl (by omega)

/-- A score has a report exactly if its address, the name and the overall score are in order. -/
lemma reportOf_eq_ok_iff {s : Score} {name : Json} {r : Report} :
    reportOf s name = .ok r ↔
      (s.address.toString?.isSome ∧ name.IsName ∧ s.InRange) ∧ r = ⟨s, nameOf name, false⟩ := by
  have hproblems : (unicodeProblem? "contract_address" s.address).toList
      ++ (nameProblem? name).toList ++ (scoreProblem? s.overall).toList = [] ↔
      s.address.toString?.isSome ∧ name.IsName ∧ s.InRange := by
    rw [List.append_eq_nil_iff, List.append_eq_nil_iff, Option.toList_eq_nil_iff,
      Option.toList_eq_nil_iff, Option.toList_eq_nil_iff, unicodeProblem?_eq_none_iff,
      nameProblem?_eq_none_iff, scoreProblem?_eq_none_iff, and_assoc]
  unfold reportOf
  split
  · rename_i hnone
    rw [Except.ok.injEq]
    exact ⟨fun h => ⟨hproblems.1 hnone, h.symm⟩, fun h => h.2.symm⟩
  · rename_i hsome
    exact iff_of_false (by intro h; cases h) fun h => hsome (hproblems.2 h.1)

/-- A problem with a text names the field. -/
lemma path_of_unicodeProblem? {name : String} {t : Text} {p : Problem}
    (h : unicodeProblem? name t = some p) : p.path = [.member (Text.ofString name)] := by
  unfold unicodeProblem? at h
  split at h
  · cases h
  · cases h
    rfl

/-- A problem with a name is one of the field of names. -/
lemma path_of_nameProblem? {v : Json} {p : Problem} (h : nameProblem? v = some p) :
    p.path = [.member (Text.ofString "contract_name")] := by
  cases v with
  | null => cases h
  | str t => exact path_of_unicodeProblem? h
  | _ =>
    cases h
    rfl

/-- Whatever is wrong with a report on a score in range, is not the score. -/
lemma Score.InRange.path_ne {s : Score} (h : s.InRange) {name : Json} {problems : List Problem}
    (hreport : reportOf s name = .error problems) {p : Problem} (hp : p ∈ problems) :
    p.path ≠ [.member (Text.ofString "score")] := by
  unfold reportOf at hreport
  rw [scoreProblem?_eq_none_iff.2 h] at hreport
  split at hreport
  · cases hreport
  · cases hreport
    rw [Option.toList_none, List.append_nil, List.mem_append, Option.mem_toList,
      Option.mem_toList] at hp
    rcases hp with hp | hp
    · rw [path_of_unicodeProblem? hp]
      decide
    · rw [path_of_nameProblem? hp]
      decide

/-- Every score is in range. -/
lemma inRange_scoreOf (w : Weights) (address : Text) (issues : List Issue) (timestamp : Int) :
    (scoreOf w address issues timestamp).InRange := by
  unfold Score.InRange
  simp only [scoreOf, overallScore, maxScore]
  omega

/-! ## The account -/

/-- What a score says about issues, if the categories and the cap are these. -/
structure Score.Accounts (category : List (Category × Int)) (cap : Option Int)
    (issues : List Issue) (s : Score) : Prop where
  overall_eq_costs : s.overall = max 0 (100 - ((categoriesOf issues).map fun c =>
    Weights.cost category cap c (countOfCategory issues c)).sum)
  overall_eq_scores : s.overall = max 0 (100 + (s.breakdown.categoryScores.map Prod.snd).sum)
  inRange : s.InRange
  byCategory : s.breakdown.byCategory =
    (categoriesOf issues).map fun c => (c, countOfCategory issues c)
  bySeverity : s.breakdown.bySeverity =
    (severitiesOf issues).map fun v => (v, countOfSeverity issues v)
  keys_categoryScores : s.breakdown.categoryScores.map Prod.fst = categoriesOf issues
  /-- A category costs something or nothing, and no more than the cap. -/
  categoryScores_bounds : ∀ row ∈ s.breakdown.categoryScores,
    row.2 ≤ 0 ∧ ∀ most ∈ cap, -most ≤ row.2
  nodup_categories : (categoriesOf issues).Nodup
  mem_categories : ∀ c, c ∈ categoriesOf issues ↔ ∃ i ∈ issues, i.finding.category = c
  sum_byCategory : (s.breakdown.byCategory.map Prod.snd).sum = issues.length
  sum_bySeverity : (s.breakdown.bySeverity.map Prod.snd).sum = issues.length
  issues_eq : s.issues = issues

/-- A category costs at least nothing and at most the cap. -/
lemma Weights.cost_bounds {category : List (Category × Int)} {cap : Option Int}
    (hcap : ∀ most ∈ cap, 0 ≤ most) (hcategory : ∀ row ∈ category, 0 ≤ row.2) (c : Category)
    (count : Nat) :
    0 ≤ cost category cap c count ∧ ∀ most ∈ cap, cost category cap c count ≤ most := by
  have hproduct : 0 ≤ (lookup? c category).getD 0 * (count : Int) :=
    Int.mul_nonneg (lookup?_nonneg c hcategory) (Int.natCast_nonneg count)
  cases cap with
  | none => exact ⟨hproduct, fun most hmost => by cases hmost⟩
  | some bound =>
    have hbound := hcap bound rfl
    refine ⟨Int.le_min.2 ⟨hproduct, hbound⟩, ?_⟩
    rintro most ⟨⟩
    exact Int.min_le_right _ _

/-- Weights are accepted exactly if no weight and no cap is negative, and every score that is made
with accepted weights accounts for its issues. A report takes every such score, and with a Unicode
address and a name it is a report on this score. -/
theorem scoreOf_accounts (severity : List (Severity × Int)) (category : List (Category × Int))
    (cap : Option Int) :
    ((∃ w, Weights.make severity category cap = .ok w) ↔
        (∀ most ∈ cap, 0 ≤ most) ∧ (∀ row ∈ severity, 0 ≤ row.2) ∧ ∀ row ∈ category, 0 ≤ row.2) ∧
      ∀ w, Weights.make severity category cap = .ok w →
        ∀ (address : Text) (issues : List Issue) (timestamp : Int),
          (scoreOf w address issues timestamp).Accounts category cap issues ∧
          ∀ name : Json,
            (∀ problems, reportOf (scoreOf w address issues timestamp) name = .error problems →
              ∀ p ∈ problems, p.path ≠ [.member (Text.ofString "score")]) ∧
            (address.toString?.isSome → name.IsName →
              reportOf (scoreOf w address issues timestamp) name =
                .ok ⟨scoreOf w address issues timestamp, nameOf name, false⟩) := by
  refine ⟨Weights.exists_make_eq_ok_iff, ?_⟩
  intro w hw address issues timestamp
  have hrange := inRange_scoreOf w address issues timestamp
  obtain ⟨⟨hcap, -, hcategory⟩, -⟩ := Weights.make_eq_ok_iff.1 hw
  have hscores := categoryScores_of_make hw issues
  have hbounds : ∀ row ∈ (breakdownOf w issues).categoryScores,
      row.2 ≤ 0 ∧ ∀ most ∈ cap, -most ≤ row.2 := by
    rw [hscores, List.forall_mem_map]
    intro c _
    obtain ⟨hnonneg, hmost⟩ :=
      Weights.cost_bounds hcap hcategory c (countOfCategory issues c)
    exact ⟨Int.neg_nonpos_of_nonneg hnonneg, fun most h => Int.neg_le_neg (hmost most h)⟩
  have hoverall := overallScore_eq fun row hrow => (hbounds row hrow).1
  refine ⟨⟨?_, hoverall, hrange, byCategory_breakdownOf w issues, bySeverity_breakdownOf w issues,
    ?_, hbounds, nodup_eraseDups _, ?_, ?_, ?_, rfl⟩, ?_⟩
  · -- the overall score in terms of costs
    have hsum : ((breakdownOf w issues).categoryScores.map Prod.snd).sum =
        -((categoriesOf issues).map fun c =>
          Weights.cost category cap c (countOfCategory issues c)).sum := by
      rw [hscores, List.sum_neg, List.map_map, List.map_map]
      rfl
    have hcosts := hoverall
    rw [hsum, ← Int.sub_eq_add_neg] at hcosts
    exact hcosts
  · show (breakdownOf w issues).categoryScores.map Prod.fst = _
    rw [hscores, List.map_map]
    exact List.map_id _
  · intro c
    rw [categoriesOf, List.mem_eraseDups, List.mem_map]
  · exact (sum_tally _).trans (List.length_map _)
  · exact (sum_tally _).trans (List.length_map _)
  · intro name
    refine ⟨fun problems hproblems p hp => hrange.path_ne hproblems hp, ?_⟩
    intro haddress hname
    exact reportOf_eq_ok_iff.2 ⟨⟨haddress, hname, hrange⟩, rfl⟩

/-- An issue of a category and a severity. -/
def issueOf (c : Category) (v : Severity) : Issue :=
  ⟨0, ⟨c, v, "", "", "", none, none⟩⟩

/-- Issues of a category that costs more than the cap, of one that costs less and of one without a
weight. -/
def pricedIssues : List Issue :=
  [issueOf .reentrancy .high, issueOf .logicError .low, issueOf .reentrancy .high,
    issueOf .gasInefficiency .low, issueOf .reentrancy .medium]

/-- Three issues of one category reach the cap, and one category is free. -/
theorem scoreOf_accounts_pricedIssues :
    ∃ w, Weights.make [(.high, 7)] [(.reentrancy, 20), (.logicError, 3)] (some 50) = .ok w ∧
      (scoreOf w [] pricedIssues 0).overall = 47 ∧
      (scoreOf w [] pricedIssues 0).breakdown.byCategory =
        [(.reentrancy, 3), (.logicError, 1), (.gasInefficiency, 1)] ∧
      ∃ r, reportOf (scoreOf w [] pricedIssues 0) .null = .ok r ∧ r.score.issues = pricedIssues := by
  obtain ⟨haccepted, hscores⟩ :=
    scoreOf_accounts [(.high, 7)] [(.reentrancy, 20), (.logicError, 3)] (some 50)
  obtain ⟨w, hw⟩ := haccepted.2 (by decide)
  obtain ⟨haccounts, hreports⟩ := hscores w hw [] pricedIssues 0
  refine ⟨w, hw, ?_, ?_, _, (hreports .null).2 rfl (.inl rfl), haccounts.issues_eq⟩
  · rw [haccounts.overall_eq_costs]
    decide
  · rw [haccounts.byCategory]
    decide

end ContractAudit
