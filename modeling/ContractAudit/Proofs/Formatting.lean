import ContractAudit.Proofs.Counterparts
import ContractAudit.Proofs.Isolation

/-!
# Independence of formatting

The default detectors find the same in a tree and in the tree in another format, at corresponding
nodes, as long as the order of lines is kept.

Every detector is taken through both trees at once. Its states stay related from node to node
(`HandlerTable.overNodes_matches`), because each of its checks finds the same at counterparts
(`FindsAlike`). The one check that reads a place is that for reentrancy, which compares two lines.
-/

namespace ContractAudit

/-! ## Findings at corresponding nodes -/

/-- The places of counterparts, the line of the second being the moved line of the first. -/
def Location.Matches (f : Int → Int) (root root' : Node) (l l' : Location) : Prop :=
  l'.line = f l.line ∧ ∃ m m', Node.Counterparts root root' m m' ∧ l = m.loc ∧ l' = m'.loc

/-- Findings that agree on everything but their places, which are those of counterparts. -/
structure Finding.Matches (f : Int → Int) (root root' : Node) (x x' : Finding) : Prop where
  category : x'.category = x.category
  severity : x'.severity = x.severity
  title : x'.title = x.title
  description : x'.description = x.description
  recommendation : x'.recommendation = x.recommendation
  function : x'.function = x.function
  location : Option.Rel (Location.Matches f root root') x.location x'.location

/-- Two computations that fail with the same fault or give related results. -/
inductive Agree {α : Type} (R : α → α → Prop) : Except Fault α → Except Fault α → Prop where
  | error (e : Fault) : Agree R (.error e) (.error e)
  | ok {a a' : α} (h : R a a') : Agree R (.ok a) (.ok a')

/-- Computations that agree fail alike or have related results. -/
lemma Agree.failed_or_ok {α : Type} {R : α → α → Prop} {x x' : Except Fault α}
    (h : Agree R x x') :
    (∃ e, x = .error e ∧ x' = .error e) ∨ ∃ a a', x = .ok a ∧ x' = .ok a' ∧ R a a' := by
  cases h with
  | error e => exact .inl ⟨e, rfl, rfl⟩
  | @ok a a' h => exact .inr ⟨a, a', rfl, rfl, h⟩

/-- Two calls of a handler that leave related states and fail alike. -/
structure Aftermath.Matches {σ : Type} (R : σ → σ → Prop) (x x' : Aftermath σ) : Prop where
  state : R x.state x'.state
  fault : x'.fault = x.fault

section Pass

variable {σ : Type} {f : Int → Int} {root root' : Node} {R : σ → σ → Prop}
  {table : HandlerTable σ}

/-- The handlers of a table keep a relation at counterparts. -/
def HandlerTable.Keeps (table : HandlerTable σ) (root root' : Node) (R : σ → σ → Prop) : Prop :=
  ∀ entry ∈ table, ∀ s s' n n', R s s' → Node.Counterparts root root' n n' →
    (entry.2 s n).Matches R (entry.2 s' n')

/-- At counterparts, the handlers keep the relation together. -/
lemma HandlerTable.atNode_matches (hroot : root.Reformatted f root')
    (htable : table.Keeps root root' R) {s s' : σ} (hs : R s s') {n n' : Node}
    (hn : Node.Counterparts root root' n n') :
    (table.atNode s n).Matches R (table.atNode s' n') := by
  have hkind := (hroot.of_counterparts hn).kind_eq
  induction table generalizing s s' with
  | nil => exact ⟨hs, rfl⟩
  | cons entry table ih =>
    have hrest : HandlerTable.Keeps table root root' R :=
      fun e he => htable e (List.mem_cons_of_mem _ he)
    rcases entry with ⟨kind, handler⟩
    simp only [atNode, hkind]
    split
    · obtain ⟨hstate, hfault⟩ := htable _ List.mem_cons_self s s' n n' hs hn
      rcases hx : handler s n with ⟨t, fault⟩
      rcases hx' : handler s' n' with ⟨t', fault'⟩
      simp only [hx, hx'] at hstate hfault
      subst hfault
      cases fault' with
      | none => exact ih hrest hstate
      | some e => exact ⟨hstate, rfl⟩
    · exact ih hrest hs

/-- Along lists of counterparts, the handlers keep the relation. -/
lemma HandlerTable.overNodes_matches (hroot : root.Reformatted f root')
    (htable : table.Keeps root root' R) {ns ns' : List Node}
    (hns : List.Forall₂ (Node.Counterparts root root') ns ns') {s s' : σ} (hs : R s s') :
    (table.overNodes s ns).Matches R (table.overNodes s' ns') := by
  induction hns generalizing s s' with
  | nil => exact ⟨hs, rfl⟩
  | @cons n n' ns ns' hn _ ih =>
    obtain ⟨hstate, hfault⟩ := atNode_matches hroot htable hs hn
    simp only [overNodes]
    rcases hx : table.atNode s n with ⟨t, fault⟩
    rcases hx' : table.atNode s' n' with ⟨t', fault'⟩
    simp only [hx, hx'] at hstate hfault
    subst hfault
    -- a fault stops both walks at the same node
    cases fault' with
    | none => exact ih hstate
    | some e => exact ⟨hstate, rfl⟩

end Pass

/-! ## The default detectors -/

/-- Findings that match one by one. -/
abbrev Finding.AllMatch (f : Int → Int) (root root' : Node) : List Finding → List Finding → Prop :=
  List.Forall₂ (Finding.Matches f root root')

/-- A check that finds the same at counterparts. -/
def FindsAlike (f : Int → Int) (root root' : Node) (check : Node → Except Fault (List Finding)) :
    Prop :=
  ∀ n n', Node.Counterparts root root' n n' →
    Agree (Finding.AllMatch f root root') (check n) (check n')

section Detectors

variable {f : Int → Int} {root root' : Node}

/-- Related options are both there or both missing. -/
lemma isNone_of_rel {α β : Type} {R : α → β → Prop} {x : Option α} {y : Option β}
    (h : Option.Rel R x y) : y.isNone = x.isNone := by
  cases h with
  | none => rfl
  | some _ => rfl

/-- Counterparts stand at matching places. -/
lemma Node.Counterparts.loc_matches {n n' : Node} (hroot : root.Reformatted f root')
    (h : Node.Counterparts root root' n n') : Location.Matches f root root' n.loc n'.loc :=
  ⟨(hroot.of_counterparts h).line_eq, n, n', h, rfl, rfl⟩

/-- A detector whose handlers keep a relation of states under which it ends alike finds the same. -/
lemma Detector.detect_agree (hroot : root.Reformatted f root') (d : Detector) {s : d.State}
    {table : HandlerTable d.State} (hregister : d.register = .ok (s, table))
    {R : d.State → d.State → Prop} (hs : R s s) (htable : table.Keeps root root' R)
    (hfinish : ∀ t t', R t t' →
      Agree (Finding.AllMatch f root root') (d.finish t) (d.finish t')) :
    Agree (Finding.AllMatch f root root') (d.detect root) (d.detect root') := by
  obtain ⟨hstate, hfault⟩ :=
    HandlerTable.overNodes_matches hroot htable (Node.Counterparts.root.walk hroot) hs
  simp only [detect, hregister]
  rcases hx : table.overNodes s root.walk with ⟨t, fault⟩
  rcases hx' : table.overNodes s root'.walk with ⟨t', fault'⟩
  simp only [hx, hx'] at hstate hfault
  subst hfault
  cases fault' with
  | none => exact hfinish t t' hstate
  | some e => exact .error e

/-- Collecting what is found alike keeps findings matching. -/
lemma collect_matches {check : Node → Except Fault (List Finding)}
    (hcheck : FindsAlike f root root' check) {found found' : List Finding}
    (hfound : Finding.AllMatch f root root' found found') {n n' : Node}
    (hn : Node.Counterparts root root' n n') :
    (collect check found n).Matches (Finding.AllMatch f root root')
      (collect check found' n') := by
  unfold collect
  rcases (hcheck n n' hn).failed_or_ok with ⟨e, hx, hx'⟩ | ⟨more, more', hx, hx', hmore⟩
  · rw [hx, hx']
    exact ⟨hfound, rfl⟩
  · rw [hx, hx']
    exact ⟨List.rel_append hfound hmore, rfl⟩

/-- A handler for one kind of node that collects what is found alike keeps findings matching. -/
lemma keeps_collect {check : Node → Except Fault (List Finding)}
    (hcheck : FindsAlike f root root' check) (kind : String) :
    HandlerTable.Keeps [(kind, collect check)] root root' (Finding.AllMatch f root root') := by
  intro entry hentry found found' n n' hfound hn
  obtain rfl := List.mem_singleton.1 hentry
  exact collect_matches hcheck hfound hn

/-! ### Reentrancy -/

namespace Reentrancy

/-- What was seen stands at matching places. -/
structure Seen.Matches (f : Int → Int) (root root' : Node) (seen seen' : Seen) : Prop where
  call : Option.Rel (Location.Matches f root root') seen.call seen'.call
  assignment : Option.Rel (Location.Matches f root root') seen.assignment seen'.assignment

/-- One more pair of counterparts is taken into account alike. -/
lemma Seen.step_agree (hroot : root.Reformatted f root') {seen seen' : Seen}
    (hseen : seen.Matches f root root' seen') {n n' : Node}
    (hn : Node.Counterparts root root' n n') :
    Agree (Seen.Matches f root root') (seen.step n) (seen'.step n') := by
  have hformat := hroot.of_counterparts hn
  simp only [step, hformat.kind_eq, hformat.call?_eq, isNone_of_rel hseen.call,
    isNone_of_rel hseen.assignment]
  split
  · split
    · split
      · exact .error _
      · split
        · exact .ok ⟨.some (hn.loc_matches hroot), hseen.assignment⟩
        · exact .ok hseen
    · exact .ok hseen
  · split
    · split
      · exact .ok ⟨hseen.call, .some (hn.loc_matches hroot)⟩
      · exact .ok hseen
    · exact .ok hseen

/-- What is seen along counterparts agrees. -/
lemma Seen.steps_agree (hroot : root.Reformatted f root') {ns ns' : List Node}
    (hns : List.Forall₂ (Node.Counterparts root root') ns ns') {seen seen' : Seen}
    (hseen : seen.Matches f root root' seen') :
    Agree (Seen.Matches f root root') (seen.steps ns) (seen'.steps ns') := by
  induction hns generalizing seen seen' with
  | nil => exact .ok hseen
  | @cons n n' ns ns' hn _ ih =>
    simp only [steps]
    rcases (step_agree hroot hseen hn).failed_or_ok with ⟨e, hx, hx'⟩ | ⟨t, t', hx, hx', hnext⟩
    · rw [hx, hx']
      exact .error e
    · rw [hx, hx']
      exact ih hnext

/-- Lines that are moved in order are in the same order. -/
lemma moved_lt_iff (hf : ∀ a b, a < b → f a < f b) (a b : Int) : f a < f b ↔ a < b := by
  refine ⟨fun h => ?_, hf a b⟩
  rcases Int.lt_trichotomy a b with hlt | rfl | hgt
  · exact hlt
  · exact absurd h (Int.lt_irrefl _)
  · exact absurd (hf b a hgt) (Int.lt_asymm h)

/-- Functions in two formats have the same finding, as the order of lines is kept. -/
lemma check_findsAlike (hroot : root.Reformatted f root') (hf : ∀ a b, a < b → f a < f b) :
    FindsAlike f root root' check := by
  intro n n' hn
  unfold check
  rcases (hroot.of_counterparts hn).function?_cases with ⟨hnone, hnone'⟩ | ⟨v, hview, hview'⟩
  · rw [hnone, hnone']
    exact .error _
  · rw [hview, hview']
    have hnodes := Node.walkPart_counterparts hroot (hn.part? hroot .body)
    have hstart : Seen.Matches f root root' {} {} := ⟨.none, .none⟩
    simp only
    rcases (Seen.steps_agree hroot hnodes hstart).failed_or_ok with
      ⟨e, hx, hx'⟩ | ⟨seen, seen', hx, hx', hcall, hassignment⟩
    · rw [hx, hx']
      exact .error e
    · rw [hx, hx']
      rcases seen with ⟨call, assignment⟩
      rcases seen' with ⟨call', assignment'⟩
      cases hcall with
      | none => exact .ok .nil
      | @some l l' hl =>
        cases hassignment with
        | none => exact .ok .nil
        | @some k k' hk =>
          -- the one comparison of lines, which `f` keeps
          simp only [hl.1, hk.1, moved_lt_iff hf]
          split
          · exact .ok (.cons ⟨rfl, rfl, rfl, rfl, rfl, rfl, .some hl⟩ .nil)
          · exact .ok .nil

end Reentrancy

/-! ### Access control -/

namespace AccessControl

/-- A guard is found in both formats or in none. -/
lemma hasGuard_eq (hroot : root.Reformatted f root') {ns ns' : List Node}
    (hns : List.Forall₂ (Node.Counterparts root root') ns ns') : hasGuard ns' = hasGuard ns := by
  induction hns with
  | nil => rfl
  | @cons n n' ns ns' hn _ ih =>
    have hformat := hroot.of_counterparts hn
    simp only [hasGuard, hformat.kind_eq, hformat.call?_eq, ih]

/-- Functions in two formats have the same finding. -/
lemma check_findsAlike (hroot : root.Reformatted f root') : FindsAlike f root root' check := by
  intro n n' hn
  unfold check
  rcases (hroot.of_counterparts hn).function?_cases with ⟨hnone, hnone'⟩ | ⟨v, hview, hview'⟩
  · rw [hnone, hnone']
    exact .error _
  · rw [hview, hview']
    simp only [Node.FunctionView.isReadOnly]
    split
    · exact .ok .nil
    · have hbody := hn.part? hroot .body
      generalize n.part? .body = body at hbody ⊢
      generalize n'.part? .body = body' at hbody ⊢
      cases hbody with
      | none => exact .ok .nil
      | @some b b' hb =>
        simp only [hasGuard_eq hroot (hb.walk hroot)]
        split
        · exact .ok .nil
        · split
          · exact .error _
          · exact .ok .nil
          · exact .ok (.cons ⟨rfl, rfl, rfl, rfl, rfl, rfl, .some (hn.loc_matches hroot)⟩ .nil)

end AccessControl

/-! ### Gas inefficiency -/

namespace Gas

/-- An operand selects a bound in both formats or in none. -/
lemma selectsBound_eq (hroot : root.Reformatted f root') {operand operand' : Option Node}
    (h : Option.Rel (Node.Counterparts root root') operand operand') :
    selectsBound operand' = selectsBound operand := by
  cases h with
  | none => rfl
  | some hn =>
    have hformat := hroot.of_counterparts hn
    simp only [selectsBound, hformat.kind_eq, hformat.member?_eq]

/-- A condition has a dynamic bound in both formats or in none. -/
lemma hasDynamicBound_eq (hroot : root.Reformatted f root') {condition condition' : Option Node}
    (h : Option.Rel (Node.Counterparts root root') condition condition') :
    hasDynamicBound condition' = hasDynamicBound condition := by
  cases h with
  | none => rfl
  | @some n n' hn =>
    have hformat := hroot.of_counterparts hn
    simp only [hasDynamicBound, hformat.kind_eq, selectsBound_eq hroot (.some hn)]
    rcases hformat.binary?_cases with ⟨hnone, hnone'⟩ | ⟨operator, hbinary, hbinary'⟩
    · simp only [hnone, hnone']
    · simp only [hbinary, hbinary', selectsBound_eq hroot (hn.part? hroot .left),
        selectsBound_eq hroot (hn.part? hroot .right)]

/-- There are as many assignments in both formats. -/
lemma assignments_eq (hroot : root.Reformatted f root') {ns ns' : List Node}
    (hns : List.Forall₂ (Node.Counterparts root root') ns ns') :
    assignments ns' = assignments ns := by
  induction hns with
  | nil => rfl
  | @cons n n' ns ns' hn _ ih =>
    unfold assignments at ih ⊢
    rw [List.countP_cons, List.countP_cons, ih, (hroot.of_counterparts hn).kind_eq]

/-- Loops in two formats have the same findings. -/
lemma check_findsAlike (hroot : root.Reformatted f root') : FindsAlike f root root' check := by
  intro n n' hn
  have hformat := hroot.of_counterparts hn
  have hloc := hn.loc_matches hroot
  unfold check
  rcases hformat.condition?_cases with ⟨hnone, hnone'⟩ | ⟨hcondition, hcondition'⟩
  · rw [hnone, hnone']
    exact .error _
  · rcases hformat.loopBody?_cases with ⟨hnone, hnone'⟩ | ⟨hbody, hbody'⟩
    · rw [hcondition, hcondition', hnone, hnone']
      exact .error _
    · have hcount := assignments_eq hroot (Node.walkPart_counterparts hroot (hn.part? hroot .body))
      simp only [hbody, hbody', hcondition, hcondition', hcount,
        hasDynamicBound_eq hroot (hn.part? hroot .condition)]
      split
      · exact .error _
      · refine .ok (List.rel_append ?_ ?_)
        · split
          · exact .cons ⟨rfl, rfl, rfl, rfl, rfl, rfl, .some hloc⟩ .nil
          · exact .nil
        · split
          · exact .cons ⟨rfl, rfl, rfl, rfl, rfl, rfl, .some hloc⟩ .nil
          · exact .nil

end Gas

/-! ### Logic errors -/

namespace Logic

/-- The same comparisons, and findings that match. -/
structure State.Matches (f : Int → Int) (root root' : Node) (s s' : State) : Prop where
  comparisons : s'.comparisons = s.comparisons
  found : Finding.AllMatch f root root' s.found s'.found

/-- Conditions in two formats are noted alike. -/
lemma noteCondition_matches (hroot : root.Reformatted f root') {s s' : State}
    (hs : s.Matches f root root' s') {n n' : Node} (hn : Node.Counterparts root root' n n') :
    (noteCondition s n).Matches (State.Matches f root root') (noteCondition s' n') := by
  unfold noteCondition
  rcases (hroot.of_counterparts hn).condition?_cases with
    ⟨hnone, hnone'⟩ | ⟨hcondition, hcondition'⟩
  · rw [hnone, hnone']
    exact ⟨hs, rfl⟩
  · rw [hcondition, hcondition']
    have hpart := hn.part? hroot .condition
    generalize n.part? .condition = condition at hpart ⊢
    generalize n'.part? .condition = condition' at hpart ⊢
    cases hpart with
    | none => exact ⟨hs, rfl⟩
    | @some c c' hc =>
      simp only [Option.bind_some]
      rcases (hroot.of_counterparts hc).binary?_cases with
        ⟨hnone, hnone'⟩ | ⟨operator, hbinary, hbinary'⟩
      · rw [hnone, hnone']
        exact ⟨hs, rfl⟩
      · rw [hbinary, hbinary']
        have hleft := hc.part? hroot .left
        have hright := hc.part? hroot .right
        generalize c.part? .left = left at hleft ⊢
        generalize c'.part? .left = left' at hleft ⊢
        generalize c.part? .right = right at hright ⊢
        generalize c'.part? .right = right' at hright ⊢
        cases hleft with
        | none => exact ⟨hs, rfl⟩
        | some hl =>
          cases hright with
          | none => exact ⟨hs, rfl⟩
          | some _ =>
            -- the form of the left operand is the only text that a detector reads
            refine ⟨⟨?_, hs.found⟩, rfl⟩
            simp only [(hroot.of_counterparts hl).serialize_eq, hs.comparisons]

/-- A change of state is found in both formats or in none. -/
lemma changesState_eq (hroot : root.Reformatted f root') {ns ns' : List Node}
    (hns : List.Forall₂ (Node.Counterparts root root') ns ns') :
    changesState ns' = changesState ns := by
  induction hns with
  | nil => rfl
  | @cons n n' ns ns' hn _ ih =>
    have hformat := hroot.of_counterparts hn
    simp only [changesState, hformat.kind_eq, hformat.call?_eq, ih]

/-- Functions in two formats have the same finding. -/
lemma check_findsAlike (hroot : root.Reformatted f root') : FindsAlike f root root' check := by
  intro n n' hn
  unfold check
  rcases (hroot.of_counterparts hn).function?_cases with ⟨hnone, hnone'⟩ | ⟨v, hview, hview'⟩
  · rw [hnone, hnone']
    exact .error _
  · rw [hview, hview']
    have hnodes := Node.walkPart_counterparts hroot (hn.part? hroot .body)
    simp only [Node.FunctionView.isReadOnly, changesState_eq hroot hnodes]
    split
    · exact .ok .nil
    · split
      · exact .ok .nil
      · split
        · exact .error _
        · exact .ok .nil
        · exact .ok (.cons ⟨rfl, rfl, rfl, rfl, rfl, rfl, .some (hn.loc_matches hroot)⟩ .nil)

/-- The handlers keep the comparisons the same and the findings matching. -/
lemma keeps_handlers (hroot : root.Reformatted f root') :
    HandlerTable.Keeps [(Kind.conditional, noteCondition), (Kind.function, noteFunction)] root
      root' (State.Matches f root root') := by
  intro entry hentry s s' n n' hs hn
  rcases List.mem_cons.1 hentry with rfl | hentry
  · exact noteCondition_matches hroot hs hn
  · obtain rfl := List.mem_singleton.1 hentry
    obtain ⟨hfound, hfault⟩ := collect_matches (check_findsAlike hroot) hs.found hn
    exact ⟨⟨hs.comparisons, hfound⟩, hfault⟩

/-- Findings about operands have no place, so each matches itself. -/
lemma comparisonFindings_matches (f : Int → Int) (root root' : Node) (seen : Comparisons) :
    Finding.AllMatch f root root' (comparisonFindings seen) (comparisonFindings seen) := by
  refine List.forall₂_same.2 ?_
  intro x hx
  obtain ⟨row, -, hrow⟩ := List.mem_filterMap.1 hx
  simp only at hrow
  split at hrow
  · cases hrow
    exact ⟨rfl, rfl, rfl, rfl, rfl, rfl, .none⟩
  · cases hrow

end Logic

/-- Every default detector finds the same in both formats. -/
lemma detect_agree_of_mem_defaultDetectors (hroot : root.Reformatted f root')
    (hf : ∀ a b, a < b → f a < f b) {d : Detector} (hd : d ∈ defaultDetectors) :
    Agree (Finding.AllMatch f root root') (d.detect root) (d.detect root') := by
  simp only [defaultDetectors, List.mem_cons, List.not_mem_nil, or_false] at hd
  rcases hd with rfl | rfl | rfl | rfl
  · exact Detector.detect_agree hroot _ rfl .nil
      (keeps_collect (Reentrancy.check_findsAlike hroot hf) _) fun _ _ h => .ok h
  · exact Detector.detect_agree hroot _ rfl .nil
      (keeps_collect (AccessControl.check_findsAlike hroot) _) fun _ _ h => .ok h
  · exact Detector.detect_agree hroot _ rfl .nil
      (keeps_collect (Gas.check_findsAlike hroot) _) fun _ _ h => .ok h
  · refine Detector.detect_agree hroot _ rfl (R := Logic.State.Matches f root root') ⟨rfl, .nil⟩
      (Logic.keeps_handlers hroot) ?_
    intro s s' hs
    refine .ok (List.rel_append ?_ hs.found)
    rw [hs.comparisons]
    exact Logic.comparisonFindings_matches f root root' s.comparisons

end Detectors

/-- The default detectors find the same in a tree and in the tree in another format, at
corresponding nodes. -/
theorem runDetectors_reformatted (f : Int → Int) (hf : ∀ a b, a < b → f a < f b)
    (root root' : Node) (hroot : root.Reformatted f root') :
    List.Forall₂ (Finding.Matches f root root') (runDetectors root defaultDetectors).1
      (runDetectors root' defaultDetectors).1 := by
  have hfound : ∀ d ∈ defaultDetectors,
      Finding.AllMatch f root root' (d.foundOver root) (d.foundOver root') := by
    intro d hd
    rw [Detector.foundOver_eq, Detector.foundOver_eq]
    rcases (detect_agree_of_mem_defaultDetectors hroot hf hd).failed_or_ok with
      ⟨e, hx, hx'⟩ | ⟨found, found', hx, hx', h⟩
    · rw [hx, hx']
      exact .nil
    · rw [hx, hx']
      exact h
  rw [fst_runDetectors, fst_runDetectors]
  -- the same detectors run on both sides, so their lists are related by equality
  have hsame : List.Forall₂ (fun d d' => d = d' ∧ d ∈ defaultDetectors) defaultDetectors
      defaultDetectors := List.forall₂_same.2 fun d hd => ⟨rfl, hd⟩
  refine List.rel_flatMap hsame ?_
  rintro d _ ⟨rfl, hd⟩
  exact hfound d hd

/-- A function that calls before it assigns, with its lines, columns and blanks open. -/
def withdrawal (line : Int → Int) (column : Int) (blank : String) : Node :=
  .mk Kind.function ⟨line 1, column⟩ ("withdraw()" ++ blank)
    [.mk "block_statement" ⟨line 1, column⟩ blank
      [.mk Kind.call ⟨line 2, column⟩ blank
        [.mk Kind.member ⟨line 2, column⟩ ("msg.sender" ++ blank ++ ".call") []
          (.member (some "call"))]
        (.call (some "call") true),
       .mk Kind.assignment ⟨line 3, column⟩ ("balance" ++ blank ++ "= 0") [] (.assignment "=")]
      .plain]
    (.function (some "withdraw") (some "public") none false (some (.inside [0])))

/-- A node without children or parts in another format. -/
lemma Node.Reformatted.leaf {f : Int → Int} {kind : String} {loc loc' : Location}
    {text text' : String} {detail : Detail Node} (hline : loc'.line = f loc.line)
    (htext : normalizeBlanks text' = normalizeBlanks text)
    (hparts : ∀ role, (Node.mk kind loc text [] detail).part? role = none)
    (hparts' : ∀ role, (Node.mk kind loc' text' [] detail).part? role = none) :
    Reformatted f (.mk kind loc text [] detail) (.mk kind loc' text' [] detail) := by
  refine .intro rfl hline (fun _ => htext) rfl .nil ?_
  intro role
  rw [hparts, hparts']
  exact .none

/-- Two formats of the function. -/
lemma withdrawal_reformatted (f : Int → Int) :
    (withdrawal id 0 " ").Reformatted f (withdrawal f 4 "\n\n") := by
  have hmember : Node.Reformatted f
      (.mk Kind.member ⟨2, 0⟩ ("msg.sender" ++ " " ++ ".call") [] (.member (some "call")))
      (.mk Kind.member ⟨f 2, 4⟩ ("msg.sender" ++ "\n\n" ++ ".call") [] (.member (some "call"))) :=
    .leaf rfl (by decide +kernel) (fun _ => rfl) (fun _ => rfl)
  have hassignment : Node.Reformatted f
      (.mk Kind.assignment ⟨3, 0⟩ ("balance" ++ " " ++ "= 0") [] (.assignment "="))
      (.mk Kind.assignment ⟨f 3, 4⟩ ("balance" ++ "\n\n" ++ "= 0") [] (.assignment "=")) :=
    .leaf rfl (by decide +kernel) (fun _ => rfl) (fun _ => rfl)
  have hcall : Node.Reformatted f
      (.mk Kind.call ⟨2, 0⟩ " " [_] (.call (some "call") true))
      (.mk Kind.call ⟨f 2, 4⟩ "\n\n" [_] (.call (some "call") true)) :=
    .intro rfl rfl (fun h => by cases h) rfl (.cons hmember .nil) fun _ => .none
  have hblock : Node.Reformatted f
      (.mk "block_statement" ⟨1, 0⟩ " " [_, _] .plain)
      (.mk "block_statement" ⟨f 1, 4⟩ "\n\n" [_, _] .plain) :=
    .intro rfl rfl (fun h => by cases h) rfl (.cons hcall (.cons hassignment .nil)) fun _ => .none
  refine .intro rfl rfl (fun h => by cases h) rfl (.cons hblock .nil) ?_
  intro role
  cases role with
  | body => exact .some hblock
  | _ => exact .none

/-- A move of lines that leaves room between them. -/
def spread (line : Int) : Int :=
  2 * line + 1

/-- The function is reported twice in each format. -/
theorem runDetectors_reformatted_withdrawal :
    (∀ a b, a < b → spread a < spread b) ∧
      (withdrawal id 0 " ").Reformatted spread (withdrawal spread 4 "\n\n") ∧
      (runDetectors (withdrawal id 0 " ") defaultDetectors).1.map Finding.location =
        [some ⟨2, 0⟩, some ⟨1, 0⟩] ∧
      List.Forall₂
        (Finding.Matches spread (withdrawal id 0 " ") (withdrawal spread 4 "\n\n"))
        (runDetectors (withdrawal id 0 " ") defaultDetectors).1
        (runDetectors (withdrawal spread 4 "\n\n") defaultDetectors).1 := by
  have hspread : ∀ a b, a < b → spread a < spread b := by
    intro a b hab
    unfold spread
    omega
  have hroot := withdrawal_reformatted spread
  exact ⟨hspread, hroot, by decide +kernel, runDetectors_reformatted _ hspread _ _ hroot⟩

end ContractAudit
