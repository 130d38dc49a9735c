import ContractAudit.Proofs.Operands

/-!
# Comparisons in several contracts

The pass for logic errors keeps one table of comparisons for a whole source unit. If it kept one for
each contract, what it finds about operators in the unit would be what it finds in the contracts one
by one. This is so as long as no form of an operand occurs in two contracts; and up to the order of
the findings as long as no two comparisons of different contracts clash. Comparisons that clash are
reported, wherever they stand: `logicDetector_contracts`.

So two contracts in which nothing is found can together be reported for a variable that one of them
does not even have: `logicDetector_mixes_contracts`.
-/

namespace ContractAudit

/-! ## Faults of a walk over several trees -/

namespace HandlerTable

variable {σ : Type} {table : HandlerTable σ}

/-- Whether a handler fails does not depend on what was seen before. -/
def Blind (table : HandlerTable σ) : Prop :=
  ∀ row ∈ table, ∀ (s s' : σ) (n : Node), (row.2 s n).fault = (row.2 s' n).fault

/-- Blind handlers fail at a node whatever was seen before, or not at all. -/
lemma Blind.fault_atNode (h : table.Blind) (s s' : σ) (n : Node) :
    (table.atNode s n).fault = (table.atNode s' n).fault := by
  induction table generalizing s s' with
  | nil => rfl
  | cons row table ih =>
    rcases row with ⟨kind, handler⟩
    have hhandler := h _ List.mem_cons_self s s' n
    have hrest := fun row hrow => h row (List.mem_cons_of_mem _ hrow)
    rw [atNode, atNode]
    by_cases hkind : kind = n.kind
    · rw [if_pos (beq_iff_eq.2 hkind), if_pos (beq_iff_eq.2 hkind)]
      rcases hx : handler s n with ⟨t, _ | e⟩
      all_goals
        rcases hx' : handler s' n with ⟨t', _ | e'⟩
        all_goals
          simp only [hx, hx'] at hhandler
          cases hhandler
      · exact ih hrest t t'
      · rfl
    · rw [if_neg (mt beq_iff_eq.1 hkind), if_neg (mt beq_iff_eq.1 hkind)]
      exact ih hrest s s'

/-- A walk is without faults if there is none at any node. -/
lemma Blind.fault_overNodes_iff (h : table.Blind) (s : σ) (ns : List Node) :
    (table.overNodes s ns).fault = none ↔ ∀ n ∈ ns, (table.atNode s n).fault = none := by
  induction ns generalizing s with
  | nil => exact iff_of_true rfl fun _ hn => by cases hn
  | cons n ns ih =>
    rw [overNodes, List.forall_mem_cons]
    rcases hx : table.atNode s n with ⟨t, _ | e⟩
    · have hstate : ∀ m, (table.atNode t m).fault = (table.atNode s m).fault :=
        fun m => h.fault_atNode t s m
      simp only [ih t, hstate, true_and]
    · simp

end HandlerTable

namespace Logic

/-- The handlers of the pass for logic errors are blind. -/
lemma blind_handlers :
    HandlerTable.Blind [(Kind.conditional, noteCondition), (Kind.function, noteFunction)] := by
  intro row hrow s s' n
  rcases List.mem_cons.1 hrow with rfl | hrow
  · simp only [noteCondition]
    cases n.condition? with
    | none => rfl
    | some condition =>
      simp only
      rcases condition.bind Node.binary? with _ | ⟨_, _ | _, _ | _⟩ <;> rfl
  · obtain rfl := List.mem_singleton.1 hrow
    simp only [noteFunction, collect]
    cases check n with
    | error e => rfl
    | ok found => rfl

/-- Nothing goes wrong at a node. -/
def Passes (n : Node) : Prop :=
  (HandlerTable.atNode [(Kind.conditional, noteCondition), (Kind.function, noteFunction)] {} n).fault
    = none

/-- The pass ends well exactly if nothing goes wrong at any node. -/
lemma exists_detect_eq_ok_iff (root : Node) :
    (∃ found, logicDetector.detect root = .ok found) ↔ ∀ n ∈ root.preorder, Passes n := by
  refine Iff.trans ?_ (blind_handlers.fault_overNodes_iff {} root.preorder)
  rw [← Node.walk_eq_preorder]
  simp only [Detector.detect, Detector.register, logicDetector]
  rcases HandlerTable.overNodes _ _ root.walk with ⟨s, _ | e⟩
  · exact iff_of_true ⟨_, rfl⟩ rfl
  · exact iff_of_false (by rintro ⟨found, h⟩; cases h) (by intro h; cases h)

/-- Nothing goes wrong at a source unit. -/
lemma passes_sourceUnit {unit : Node} (h : unit.kind = Kind.sourceUnit) : Passes unit := by
  have hconditional : Kind.conditional ≠ Kind.sourceUnit := by decide
  have hfunction : Kind.function ≠ Kind.sourceUnit := by decide
  simp [Passes, HandlerTable.atNode, h, hconditional, hfunction]

/-- A source unit is searched without a fault if its parts are. -/
lemma exists_detect_sourceUnit_iff {unit : Node} (h : unit.kind = Kind.sourceUnit) :
    (∃ found, logicDetector.detect unit = .ok found) ↔
      ∀ c ∈ unit.children, ∃ found, logicDetector.detect c = .ok found := by
  simp only [exists_detect_eq_ok_iff]
  rw [unit.preorder_eq, List.forall_mem_cons, Node.preorders_eq_flatMap]
  simp only [List.mem_flatMap, forall_exists_index, and_imp, passes_sourceUnit h, true_and]
  exact ⟨fun hall c hc n hn => hall n c hc hn, fun hall n c hc hn => hall c hc n hn⟩

/-! ## What is found about operators -/

/-- The findings about operators among findings. -/
def inconsistencies (found : List Finding) : List Finding :=
  found.filter fun x => x.title == "Inconsistent Comparison Operators"

/-- What is found about the operands of a form. -/
def reportOn (comparisons : List (Node × String)) (key : String) : List Finding :=
  if 1 < (boundaryOf key comparisons).length then
    [inconsistentOperators (boundaryOf key comparisons)]
  else []

/-- What is found about comparisons. -/
def reports (comparisons : List (Node × String)) : List Finding :=
  (keysOf comparisons).flatMap (reportOn comparisons)

/-- What the pass finds about operators is the reports, form by form. -/
lemma reports_eq (comparisons : List (Node × String)) :
    comparisonFindings (grouped comparisons) = reports comparisons := by
  rw [comparisonFindings_grouped, List.filterMap_eq_flatMap_toList, reports]
  apply List.flatMap_congr
  intro key _
  rw [reportOn]
  split <;> rfl

/-- The findings about operators in a tree are those about its comparisons. -/
lemma inconsistencies_of_detect {root : Node} {found : List Finding}
    (h : logicDetector.detect root = .ok found) :
    inconsistencies found = reports (comparisonsOf root.preorder) := by
  rcases logicDetector_yields root with hok | ⟨⟨e, he⟩, -⟩
  · rw [addAll_nil] at hok
    obtain rfl := Except.ok.inj (h.symm.trans hok)
    rw [inconsistencies, filter_title, if_pos rfl, if_neg (by decide), List.append_nil, reports_eq]
  · rw [h] at he
    cases he

/-- There is a report exactly for comparisons that clash. -/
lemma mem_reports {comparisons : List (Node × String)} {x : Finding} :
    x ∈ reports comparisons ↔ ∃ c ∈ comparisons, ∃ c' ∈ comparisons, Clash c c' ∧
      x = inconsistentOperators (boundaryOf c.1.serialize comparisons) := by
  rw [← reports_eq]
  exact mem_comparisonFindings_grouped

/-! ## Comparisons in two places -/

section Parts

variable {a b : List (Node × String)} {key : String}

/-- The forms that were seen are those of the left operands. -/
lemma mem_keysOf {comparisons : List (Node × String)} :
    key ∈ keysOf comparisons ↔ ∃ c ∈ comparisons, c.1.serialize = key := by
  rw [keysOf, List.mem_eraseDups, List.mem_map]

/-- Boundary operators of two lists are those of the first, then the new ones of the second. -/
lemma boundaryOf_append (a b : List (Node × String)) (key : String) :
    boundaryOf key (a ++ b) =
      ((operatorsOf key a).filter boundaryOperators.contains
        ++ (operatorsOf key b).filter boundaryOperators.contains).eraseDups := by
  simp only [boundaryOf, operatorsOf, List.filter_append, List.map_append]

/-- A boundary operator of two lists is one of either. -/
lemma mem_boundaryOf_append {operator : String} :
    operator ∈ boundaryOf key (a ++ b) ↔
      operator ∈ boundaryOf key a ∨ operator ∈ boundaryOf key b := by
  rw [boundaryOf_append, List.mem_eraseDups, List.mem_append, boundaryOf, boundaryOf,
    List.mem_eraseDups, List.mem_eraseDups]

/-- There is nothing to report about a single boundary operator. -/
lemma reportOn_of_forall_eq {operator : String} (h : ∀ x ∈ boundaryOf key a, x = operator) :
    reportOn a key = [] := by
  have hnodup : (boundaryOf key a).Nodup := nodup_eraseDups _
  rw [reportOn, if_neg]
  rw [one_lt_length_iff_of_nodup hnodup]
  rintro ⟨x, hx, y, hy, hne⟩
  exact hne ((h x hx).trans (h y hy).symm)

/-- There is nothing to report about a form that was not seen. -/
lemma reportOn_of_not_mem (h : key ∉ keysOf a) : reportOn a key = [] := by
  rw [reportOn, boundaryOf, operatorsOf_of_not_mem h]
  rfl

/-- No comparison of one list clashes with one of the other. -/
def Compatible (a b : List (Node × String)) : Prop :=
  ∀ c ∈ a, ∀ c' ∈ b, ¬ Clash c c'

/-- Comparisons of different forms never clash. -/
lemma Compatible.of_disjoint (h : (keysOf a).Disjoint (keysOf b)) : Compatible a b := by
  intro c hc c' hc' hclash
  exact h (mem_keysOf.2 ⟨c, hc, rfl⟩) (mem_keysOf.2 ⟨c', hc', hclash.form.symm⟩)

/-- A form that both lists compare has one boundary operator. -/
lemma Compatible.eq_of_mem (h : Compatible a b) {x y : String} (hx : x ∈ boundaryOf key a)
    (hy : y ∈ boundaryOf key b) : x = y := by
  obtain ⟨hleft, c, hc, hkey, rfl⟩ := mem_boundaryOf.1 hx
  obtain ⟨hright, c', hc', hkey', rfl⟩ := mem_boundaryOf.1 hy
  by_contra hne
  exact h c hc c' hc' ⟨hkey.trans hkey'.symm, hne, hleft, hright⟩

/-- What is found about a form is found in one of two places, if the places are compatible. -/
lemma Compatible.reportOn_append (h : Compatible a b) (key : String) :
    reportOn (a ++ b) key = reportOn a key ++ reportOn b key := by
  rcases ha : (operatorsOf key a).filter boundaryOperators.contains with _ | ⟨x, xs⟩
  · have hboundary : boundaryOf key a = [] := by rw [boundaryOf, ha]; rfl
    have happend : boundaryOf key (a ++ b) = boundaryOf key b := by
      rw [boundaryOf_append, ha]
      rfl
    simp [reportOn, hboundary, happend]
  rcases hb : (operatorsOf key b).filter boundaryOperators.contains with _ | ⟨y, ys⟩
  · have hboundary : boundaryOf key b = [] := by rw [boundaryOf, hb]; rfl
    have happend : boundaryOf key (a ++ b) = boundaryOf key a := by
      rw [boundaryOf_append, hb, List.append_nil]
      rfl
    simp [reportOn, hboundary, happend]
  -- both places have boundary operators, so it is the same one everywhere
  have hx : x ∈ boundaryOf key a := by
    rw [boundaryOf, ha, List.mem_eraseDups]
    exact List.mem_cons_self
  have hy : y ∈ boundaryOf key b := by
    rw [boundaryOf, hb, List.mem_eraseDups]
    exact List.mem_cons_self
  have hleft : ∀ z ∈ boundaryOf key a, z = y := fun z hz => h.eq_of_mem hz hy
  have hright : ∀ z ∈ boundaryOf key b, z = y := by
    intro z hz
    exact (h.eq_of_mem hx hz).symm.trans (hleft x hx)
  have hboth : ∀ z ∈ boundaryOf key (a ++ b), z = y := by
    intro z hz
    exact (mem_boundaryOf_append.1 hz).elim (hleft z) (hright z)
  rw [reportOn_of_forall_eq hboth, reportOn_of_forall_eq hleft, reportOn_of_forall_eq hright]
  rfl

/-- What is found in compatible places together is what is found in each of them, up to the order. -/
lemma Compatible.reports_append (h : Compatible a b) :
    (reports (a ++ b)).Perm (reports a ++ reports b) := by
  have hkeys : ∀ c, (keysOf c).Nodup := fun c => nodup_eraseDups _
  have hleft : keysOf a ⊆ keysOf (a ++ b) := by
    intro key hkey
    obtain ⟨c, hc, hform⟩ := mem_keysOf.1 hkey
    exact mem_keysOf.2 ⟨c, List.mem_append_left _ hc, hform⟩
  have hright : keysOf b ⊆ keysOf (a ++ b) := by
    intro key hkey
    obtain ⟨c, hc, hform⟩ := mem_keysOf.1 hkey
    exact mem_keysOf.2 ⟨c, List.mem_append_right _ hc, hform⟩
  calc
    List.Perm (reports (a ++ b))
        ((keysOf (a ++ b)).flatMap fun key => reportOn a key ++ reportOn b key) :=
      .of_eq (List.flatMap_congr fun key _ => h.reportOn_append key)
    List.Perm _ ((keysOf (a ++ b)).flatMap (reportOn a) ++ (keysOf (a ++ b)).flatMap (reportOn b)) :=
      (List.flatMap_append_perm _ _ _).symm
    List.Perm _ (reports a ++ reports b) :=
      (flatMap_perm_of_subset (hkeys _) (hkeys _) hleft fun _ => reportOn_of_not_mem).append
        (flatMap_perm_of_subset (hkeys _) (hkeys _) hright fun _ => reportOn_of_not_mem)

/-- Lists without a common form are reported on one after the other. -/
lemma reports_append_of_disjoint (h : (keysOf a).Disjoint (keysOf b)) :
    reports (a ++ b) = reports a ++ reports b := by
  have hforms : (a.map fun c => c.1.serialize).Disjoint (b.map fun c => c.1.serialize) := by
    intro key ha hb
    exact h (List.mem_eraseDups.2 ha) (List.mem_eraseDups.2 hb)
  have hkeys : keysOf (a ++ b) = keysOf a ++ keysOf b := by
    rw [keysOf, List.map_append, eraseDups_append_of_disjoint hforms]
    rfl
  rw [reports, hkeys, List.flatMap_append]
  congr 1
  · apply List.flatMap_congr
    intro key hkey
    rw [(Compatible.of_disjoint h).reportOn_append, reportOn_of_not_mem (fun hb => h hkey hb),
      List.append_nil]
  · apply List.flatMap_congr
    intro key hkey
    rw [(Compatible.of_disjoint h).reportOn_append, reportOn_of_not_mem (fun ha => h ha hkey),
      List.nil_append]

end Parts

/-! ## Comparisons in several places -/

section Places

variable {α : Type} {places : List α} {comparisons : α → List (Node × String)}

/-- Lists that do not clash are reported on one by one, up to the order. -/
lemma reports_flatMap_perm
    (h : places.Pairwise fun p q => Compatible (comparisons p) (comparisons q)) :
    (reports (places.flatMap comparisons)).Perm
      (places.flatMap fun p => reports (comparisons p)) := by
  induction places with
  | nil => exact .refl _
  | cons p places ih =>
    obtain ⟨hfirst, hrest⟩ := List.pairwise_cons.1 h
    have hcompatible : Compatible (comparisons p) (places.flatMap comparisons) := by
      intro c hc c' hc'
      obtain ⟨q, hq, hc'⟩ := List.mem_flatMap.1 hc'
      exact hfirst q hq c hc c' hc'
    exact hcompatible.reports_append.trans ((ih hrest).append_left _)

/-- Lists without common forms are reported on one by one, in their order. -/
lemma reports_flatMap_of_disjoint
    (h : places.Pairwise fun p q => (keysOf (comparisons p)).Disjoint (keysOf (comparisons q))) :
    reports (places.flatMap comparisons) = places.flatMap fun p => reports (comparisons p) := by
  induction places with
  | nil => rfl
  | cons p places ih =>
    obtain ⟨hfirst, hrest⟩ := List.pairwise_cons.1 h
    have hdisjoint : (keysOf (comparisons p)).Disjoint (keysOf (places.flatMap comparisons)) := by
      intro key hkey hkey'
      obtain ⟨c, hc, hform⟩ := mem_keysOf.1 hkey'
      obtain ⟨q, hq, hc⟩ := List.mem_flatMap.1 hc
      exact hfirst q hq hkey (mem_keysOf.2 ⟨c, hc, hform⟩)
    rw [List.flatMap_cons, List.flatMap_cons, reports_append_of_disjoint hdisjoint, ih hrest]

end Places

/-- Comparisons are collected node by node. -/
lemma comparisonsOf_append (ns ms : List Node) :
    comparisonsOf (ns ++ ms) = comparisonsOf ns ++ comparisonsOf ms := by
  simp only [comparisonsOf, List.filter_append, List.filterMap_append]

/-- The comparisons in a source unit are those in its parts. -/
lemma comparisonsOf_sourceUnit {unit : Node} (h : unit.kind = Kind.sourceUnit) :
    comparisonsOf unit.preorder = unit.children.flatMap fun c => comparisonsOf c.preorder := by
  have hother : Kind.sourceUnit ≠ Kind.conditional := by decide
  rw [unit.preorder_eq, comparisonsOf, List.filter_cons_of_neg (by simp [h, hother]),
    ← comparisonsOf]
  induction unit.children with
  | nil => rfl
  | cons c cs ih => rw [Node.preorders, comparisonsOf_append, ih, List.flatMap_cons]

end Logic

/-- What is found about operators in a source unit, compared with what is found in its parts, which
are contracts, each searched alone. The unit can be searched without a fault exactly if its parts
can. Its findings are those of the parts in order, if no two parts compare operands of one form; and
they are those of the parts in some order, if no two comparisons of different parts clash. But there
is one table for the whole unit, and so there is a finding for any two comparisons that clash, also
if they stand in different parts. -/
theorem logicDetector_contracts {unit : Node} (hunit : unit.kind = Kind.sourceUnit) :
    ((∃ found, logicDetector.detect unit = .ok found) ↔
        ∀ c ∈ unit.children, ∃ found, logicDetector.detect c = .ok found) ∧
      ∀ (found : List Finding) (alone : Node → List Finding),
        logicDetector.detect unit = .ok found →
        (∀ c ∈ unit.children, logicDetector.detect c = .ok (alone c)) →
        ((unit.children.Pairwise fun c d =>
            (Logic.keysOf (Logic.comparisonsOf c.preorder)).Disjoint
              (Logic.keysOf (Logic.comparisonsOf d.preorder))) →
          Logic.inconsistencies found =
            unit.children.flatMap fun c => Logic.inconsistencies (alone c)) ∧
        ((unit.children.Pairwise fun c d =>
            Logic.Compatible (Logic.comparisonsOf c.preorder) (Logic.comparisonsOf d.preorder)) →
          (Logic.inconsistencies found).Perm
            (unit.children.flatMap fun c => Logic.inconsistencies (alone c))) ∧
        ∀ x, x ∈ Logic.inconsistencies found ↔
          ∃ c ∈ unit.children, ∃ d ∈ unit.children,
            ∃ p ∈ Logic.comparisonsOf c.preorder, ∃ q ∈ Logic.comparisonsOf d.preorder,
              Logic.Clash p q ∧ x = Logic.inconsistentOperators
                (Logic.boundaryOf p.1.serialize
                  (unit.children.flatMap fun c => Logic.comparisonsOf c.preorder)) := by
  refine ⟨Logic.exists_detect_sourceUnit_iff hunit, ?_⟩
  intro found alone hfound halone
  have hparts : (unit.children.flatMap fun c => Logic.inconsistencies (alone c)) =
      unit.children.flatMap fun c => Logic.reports (Logic.comparisonsOf c.preorder) :=
    List.flatMap_congr fun c hc => Logic.inconsistencies_of_detect (halone c hc)
  rw [Logic.inconsistencies_of_detect hfound, Logic.comparisonsOf_sourceUnit hunit, hparts]
  refine ⟨Logic.reports_flatMap_of_disjoint, Logic.reports_flatMap_perm, ?_⟩
  intro x
  rw [Logic.mem_reports]
  constructor
  · rintro ⟨p, hp, q, hq, hclash, rfl⟩
    obtain ⟨c, hc, hp⟩ := List.mem_flatMap.1 hp
    obtain ⟨d, hd, hq⟩ := List.mem_flatMap.1 hq
    exact ⟨c, hc, d, hd, p, hp, q, hq, hclash, rfl⟩
  · rintro ⟨c, hc, d, hd, p, hp, q, hq, hclash, rfl⟩
    exact ⟨p, List.mem_flatMap.2 ⟨c, hc, hp⟩, q, List.mem_flatMap.2 ⟨d, hd, hq⟩, hclash, rfl⟩

/-! ## Two contracts -/

/-- An `if` that compares a variable with a limit. -/
def comparingIf (name operator : String) : Node :=
  .mk Kind.conditional ⟨1, 0⟩ ""
    [.mk Kind.binary ⟨1, 0⟩ ""
      [.mk Kind.identifier ⟨1, 0⟩ name [] .plain, .mk Kind.identifier ⟨1, 0⟩ "limit" [] .plain]
      (.binary operator (some (.inside [0])) (some (.inside [1])))]
    (.conditional (some (.inside [0])))

/-- A contract of some statements. -/
def contractOf (name : String) (statements : List Node) : Node :=
  .mk Kind.contract ⟨1, 0⟩ "" statements (.contract (some name) "contract")

/-- A source unit of some contracts. -/
def unitOf (contracts : List Node) : Node :=
  .mk Kind.sourceUnit ⟨1, 0⟩ "" contracts .sourceUnit

/-- Two contracts that compare a variable each, and each in two ways. -/
def twoVariables : Node :=
  unitOf [contractOf "A" [comparingIf "a" "<", comparingIf "a" "<="],
    contractOf "B" [comparingIf "b" ">", comparingIf "b" ">="]]

/-- Two contracts that have no variable in common. -/
theorem logicDetector_contracts_twoVariables :
    twoVariables.kind = Kind.sourceUnit ∧
      (twoVariables.children.Pairwise fun c d =>
        (Logic.keysOf (Logic.comparisonsOf c.preorder)).Disjoint
          (Logic.keysOf (Logic.comparisonsOf d.preorder))) ∧
      ∃ found, logicDetector.detect twoVariables = .ok found ∧
        Logic.inconsistencies found =
          [Logic.inconsistentOperators ["<", "<="], Logic.inconsistentOperators [">", ">="]] := by
  have hkeys : twoVariables.children.map
      (fun c => Logic.keysOf (Logic.comparisonsOf c.preorder)) =
      [["Identifier(a)"], ["Identifier(b)"]] := by
    decide +kernel
  have hdisjoint : twoVariables.children.Pairwise fun c d =>
      (Logic.keysOf (Logic.comparisonsOf c.preorder)).Disjoint
        (Logic.keysOf (Logic.comparisonsOf d.preorder)) := by
    rw [← List.pairwise_map (R := List.Disjoint), hkeys, List.pairwise_pair,
      List.disjoint_singleton, List.mem_singleton]
    decide
  have hruns : twoVariables.children.map (fun c => (logicDetector.detect c).toOption) =
      [some [Logic.inconsistentOperators ["<", "<="]],
        some [Logic.inconsistentOperators [">", ">="]]] := by
    decide +kernel
  have hrun : ∀ c ∈ twoVariables.children,
      logicDetector.detect c = .ok ((logicDetector.detect c).toOption.getD []) := by
    intro c hc
    apply eq_ok_of_toOption
    have hmem := List.mem_map_of_mem (f := fun c => (logicDetector.detect c).toOption) hc
    rw [hruns] at hmem
    cases hfound : (logicDetector.detect c).toOption with
    | none => simp [hfound] at hmem
    | some found => rfl
  have hunit : twoVariables.kind = Kind.sourceUnit := rfl
  obtain ⟨hiff, hlaws⟩ := logicDetector_contracts hunit
  obtain ⟨found, hfound⟩ := hiff.2 fun c hc => ⟨_, hrun c hc⟩
  refine ⟨rfl, hdisjoint, found, hfound, ?_⟩
  rw [(hlaws found _ hfound hrun).1 hdisjoint]
  decide +kernel

/-- Two contracts that compare the same name, one in one way and one in another. -/
def oneVariable : Node :=
  unitOf [contractOf "A" [comparingIf "a" "<"], contractOf "B" [comparingIf "a" "<="]]

/-- Nothing is found in either contract, and yet their unit is reported. -/
theorem logicDetector_mixes_contracts :
    oneVariable.kind = Kind.sourceUnit ∧
      (∀ c ∈ oneVariable.children, c.kind = Kind.contract ∧ logicDetector.detect c = .ok []) ∧
      logicDetector.detect oneVariable = .ok [Logic.inconsistentOperators ["<", "<="]] := by
  have hcontracts : oneVariable.children.map
      (fun c => (c.kind, (logicDetector.detect c).toOption)) =
      [(Kind.contract, some []), (Kind.contract, some [])] := by
    decide +kernel
  have hunit : (logicDetector.detect oneVariable).toOption =
      some [Logic.inconsistentOperators ["<", "<="]] := by
    decide +kernel
  refine ⟨rfl, ?_, eq_ok_of_toOption hunit⟩
  intro c hc
  have hmem := List.mem_map_of_mem (f := fun c => (c.kind, (logicDetector.detect c).toOption)) hc
  rw [hcontracts] at hmem
  have hpair : (c.kind, (logicDetector.detect c).toOption) = (Kind.contract, some []) := by
    simpa using hmem
  exact ⟨congrArg Prod.fst hpair, eq_ok_of_toOption (congrArg Prod.snd hpair)⟩

end ContractAudit
