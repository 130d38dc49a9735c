import ContractAudit.Proofs.Consistency
import ContractAudit.Proofs.Isolation

/-!
# Verdicts of the default detectors

The checks of the default detectors search the parts of a node one by one, stop early and can fail.
Here each check is compared with a verdict that says outright what is found. `Node.Yields` is the
comparison: a computation over a tree gives a value, and it can only fail if something that is
reached in the tree is not what it looks like.

A walk puts the verdicts at its nodes together. The main statements say for each default detector
what it finds in a tree: `reentrancyDetector_yields`, `accessControlDetector_yields`,
`gasDetector_yields` and `logicDetector_yields`.
-/

namespace ContractAudit

/-- A result that is there is the result. -/
lemma eq_ok_of_toOption {ε α : Type} {x : Except ε α} {a : α} (h : x.toOption = some a) :
    x = .ok a := by
  cases x with
  | error e => cases h
  | ok b => exact congrArg Except.ok (Option.some.inj h)

namespace Node

/-! ## Computations over a tree -/

/-- A computation over a tree gives a value; if it fails instead, the tree is not consistent. -/
def Yields {α : Type} (root : Node) (x : Except Fault α) (value : α) : Prop :=
  x = .ok value ∨ (∃ e, x = .error e) ∧ ¬ root.Consistent

namespace Yields

variable {α : Type} {root : Node} {x : Except Fault α} {value : α}

/-- A computation that gives the value yields it. -/
lemma of_eq (h : x = .ok value) : root.Yields x value :=
  .inl h

/-- A computation may fail in a tree that is not consistent. -/
lemma of_fault {e : Fault} (h : x = .error e) (hroot : root.Consistent → False) :
    root.Yields x value :=
  .inr ⟨⟨e, h⟩, hroot⟩

/-- In a consistent tree a computation gives the value. -/
lemma eq_ok (h : root.Yields x value) (hroot : root.Consistent) : x = .ok value := by
  rcases h with h | ⟨-, hnot⟩
  · exact h
  · exact absurd hroot hnot

end Yields

/-! ## What is looked for -/

/-- Whether a node is an assignment. -/
def isAssignment (n : Node) : Bool :=
  n.kind == Kind.assignment

/-- Whether a node calls a member that hands control to another contract. -/
def isExternalCall (n : Node) : Bool :=
  n.kind == Kind.call && Reentrancy.externalMembers.any fun m => n.call? == some (some m, true)

/-- Whether a node calls one of several functions, as a member or not. -/
def callsOneOf (names : List String) (n : Node) : Bool :=
  n.kind == Kind.call && names.any fun name => n.call?.map Prod.fst == some (some name)

/-- A call is no assignment. -/
lemma isAssignment_of_call {n : Node} (h : n.kind = Kind.call) : n.isAssignment = false := by
  rw [isAssignment, h]
  rfl

/-- Only calls are external calls. -/
lemma isExternalCall_of_ne {n : Node} (h : n.kind ≠ Kind.call) : n.isExternalCall = false := by
  simp [isExternalCall, h]

/-- A call is external if it calls one of some members. -/
lemma isExternalCall_of_call? {n : Node} {callee : Option String} {isMember : Bool}
    (hkind : n.kind = Kind.call) (h : n.call? = some (callee, isMember)) :
    n.isExternalCall = (isMember && Reentrancy.externalMembers.any fun m => callee == some m) := by
  rw [Bool.eq_iff_iff]
  cases isMember <;> simp [isExternalCall, hkind, h]

/-- Only calls call a function. -/
lemma callsOneOf_of_ne {n : Node} {names : List String} (h : n.kind ≠ Kind.call) :
    n.callsOneOf names = false := by
  simp [callsOneOf, h]

/-- A call calls one of some functions if its callee is one of them. -/
lemma callsOneOf_of_call? {n : Node} (names : List String) {callee : Option String}
    {isMember : Bool} (hkind : n.kind = Kind.call) (h : n.call? = some (callee, isMember)) :
    n.callsOneOf names = names.any fun name => callee == some name := by
  simp [callsOneOf, hkind, h]

/-- A call that does not say what it calls is not consistent. -/
lemma Within.not_consistent_of_call {root n : Node} (hn : root.Within n)
    (hkind : n.kind = Kind.call) (h : n.call? = none) : ¬ root.Consistent := by
  intro hroot
  obtain ⟨_, _, hsome⟩ := (hroot.answers hn).call hkind
  rw [h] at hsome
  cases hsome

/-- A function that does not say what it is is not consistent. -/
lemma Within.not_consistent_of_function {root n : Node} (hn : root.Within n)
    (hkind : n.kind = Kind.function) (h : n.function? = none) : ¬ root.Consistent := by
  intro hroot
  obtain ⟨_, hsome, -⟩ := (hroot.answers hn).function hkind
  rw [h] at hsome
  cases hsome

/-- The body of a function plays the role of one. -/
lemma body_of_function? {n : Node} {f : FunctionView} (h : n.function? = some f) :
    f.body = n.part? .body := by
  rw [function?_eq] at h
  split at h
  · cases h
    rfl
  · cases h

/-- The operands of an operation play their roles. -/
lemma operands_of_binary? {n : Node} {operator : String} {left right : Option Node}
    (h : n.binary? = some (operator, left, right)) :
    left = n.part? .left ∧ right = n.part? .right := by
  rw [binary?_eq] at h
  split at h
  · cases h
    exact ⟨rfl, rfl⟩
  · cases h

/-- The parts of a loop play their roles. -/
lemma parts_of_loopBody? {n : Node} {body : Option Node} (h : n.loopBody? = some body) :
    body = n.part? .body ∧ n.condition? = some (n.part? .condition) := by
  rw [loopBody?_eq] at h
  rw [condition?_eq]
  cases hd : n.detail.attributes with
  | loop =>
    rw [hd] at h
    cases h
    exact ⟨rfl, rfl⟩
  | _ =>
    rw [hd] at h
    cases h

/-- What is in the body of a function that is reached is reached. -/
lemma Within.of_mem_body {root n m : Node} {f : FunctionView} (hn : root.Within n)
    (hf : n.function? = some f) (h : m ∈ walkPart f.body) : root.Within m := by
  rw [body_of_function? hf] at h
  exact hn.of_mem_walkPart h

/-- Looks for a node of a kind or a call of one of several functions, up to the first. -/
def search (kind : String) (names : List String) : List Node → Except Fault Bool
  | [] => .ok false
  | n :: rest =>
    if n.kind == kind then .ok true
    else if n.kind == Kind.call then
      match n.call? with
      | none => .error (.noAttribute "callee")
      | some (callee, _) =>
        if names.any (fun name => callee == some name) then .ok true else search kind names rest
    else search kind names rest

/-- A search up to the first tells whether there is one. -/
lemma search_yields {root : Node} (kind : String) (names : List String) {ns : List Node}
    (hns : ∀ n ∈ ns, root.Within n) :
    root.Yields (search kind names ns) (ns.any fun n => n.kind == kind || n.callsOneOf names) := by
  induction ns with
  | nil => exact .of_eq rfl
  | cons n ns ih =>
    have hrest := ih fun m hm => hns m (List.mem_cons_of_mem _ hm)
    rw [search, List.any_cons]
    cases hkind : n.kind == kind with
    | true => exact .of_eq rfl
    | false =>
      by_cases hcall : n.kind = Kind.call
      · rw [if_neg Bool.false_ne_true, if_pos (beq_iff_eq.2 hcall)]
        rcases hview : n.call? with _ | ⟨callee, isMember⟩
        · exact .of_fault rfl ((hns n List.mem_cons_self).not_consistent_of_call hcall hview)
        · have hcalls := callsOneOf_of_call? names hcall hview
          cases h : n.callsOneOf names with
          | true => exact .of_eq (by simp only [← hcalls, h]; rfl)
          | false =>
            simp only [← hcalls, h]
            exact hrest
      · rw [if_neg Bool.false_ne_true, if_neg (mt beq_iff_eq.1 hcall), callsOneOf_of_ne hcall]
        exact hrest

end Node

/-- Reports a candidate for which a search finds nothing. -/
def reportUnless (candidate : Bool) (hit : Except Fault Bool) (report : Finding) :
    Except Fault (List Finding) :=
  if candidate then
    match hit with
    | .error e => .error e
    | .ok true => .ok []
    | .ok false => .ok [report]
  else .ok []

/-- A candidate is reported unless there is a hit. -/
lemma reportUnless_yields {root : Node} (candidate : Bool) {x : Except Fault Bool} {hit : Bool}
    (h : root.Yields x hit) (report : Finding) :
    root.Yields (reportUnless candidate x report) (if candidate && !hit then [report] else []) := by
  cases candidate with
  | false => exact .of_eq rfl
  | true =>
    rcases h with h | ⟨⟨e, h⟩, hroot⟩
    · rw [h]
      cases hit <;> exact .of_eq rfl
    · exact .of_fault (by rw [h]; rfl) hroot

/-! ## Reentrancy -/

namespace Reentrancy

open Node (Yields)

variable {root : Node}

/-- What was seen before, or else what comes first among nodes. -/
def Seen.after (seen : Seen) (ns : List Node) : Seen :=
  ⟨seen.call.or ((ns.find? Node.isExternalCall).map Node.loc),
    seen.assignment.or ((ns.find? Node.isAssignment).map Node.loc)⟩

/-- Nodes are seen one by one. -/
lemma Seen.after_cons (seen : Seen) (n : Node) (ns : List Node) :
    (seen.after [n]).after ns = seen.after (n :: ns) := by
  have hor : ∀ (p : Node → Bool) (first : Option Location),
      (first.or (([n].find? p).map Node.loc)).or ((ns.find? p).map Node.loc) =
        first.or (((n :: ns).find? p).map Node.loc) := by
    intro p first
    cases hp : p n with
    | true => simp [hp]
    | false => simp [hp]
  simp only [after, hor]

/-- One more node is seen if it is the first of its sort. -/
lemma Seen.step_yields {n : Node} (hn : root.Within n) (seen : Seen) :
    root.Yields (seen.step n) (seen.after [n]) := by
  rcases seen with ⟨call, assignment⟩
  -- a call is only asked what it calls as long as no external call was seen
  by_cases hcall : n.kind = Kind.call
  · have hassignment := Node.isAssignment_of_call hcall
    cases call with
    | some loc => exact .of_eq (by simp [step, after, hcall, hassignment])
    | none =>
      rcases hview : n.call? with _ | ⟨callee, isMember⟩
      · exact .of_fault (by simp [step, hcall, hview]; rfl) (hn.not_consistent_of_call hcall hview)
      · have hexternal := Node.isExternalCall_of_call? hcall hview
        refine .of_eq ?_
        simp only [step, hcall, hview, BEq.rfl, if_true, Option.isNone_none, ← hexternal]
        cases h : n.isExternalCall with
        | true => simp [after, h, hassignment]
        | false => simp [after, h, hassignment]
  · have hexternal := Node.isExternalCall_of_ne hcall
    refine .of_eq ?_
    cases h : n.isAssignment with
    | false =>
      have hkind : ¬ n.kind = Kind.assignment := by simpa [Node.isAssignment] using h
      simp [step, after, hcall, hkind, hexternal, h]
    | true =>
      have hkind : n.kind = Kind.assignment := by simpa [Node.isAssignment] using h
      rw [hkind] at hcall
      cases assignment with
      | some loc => simp [step, after, hkind, hcall, hexternal]
      | none => simp [step, after, hkind, hcall, hexternal, h]

/-- A search through nodes sees the first of each sort. -/
lemma Seen.steps_yields {ns : List Node} (hns : ∀ n ∈ ns, root.Within n) (seen : Seen) :
    root.Yields (seen.steps ns) (seen.after ns) := by
  induction ns generalizing seen with
  | nil => exact .of_eq (by simp [steps, after])
  | cons n ns ih =>
    rw [steps, ← after_cons]
    rcases seen.step_yields (hns n List.mem_cons_self) with hstep | ⟨⟨e, hstep⟩, hroot⟩
    · rw [hstep]
      exact ih (fun m hm => hns m (List.mem_cons_of_mem _ hm)) _
    · exact .of_fault (by rw [hstep]) hroot

/-- A function is reported if its first external call stands on a line before its first
assignment. -/
def verdict (n : Node) : List Finding :=
  match n.function? with
  | none => []
  | some f =>
    match (Node.walkPart f.body).find? Node.isExternalCall,
        (Node.walkPart f.body).find? Node.isAssignment with
    | some call, some assignment =>
      if call.loc.line < assignment.loc.line then [finding (label f.name) call.loc] else []
    | _, _ => []

/-- The check for reentrancy yields its verdict. -/
lemma check_yields {n : Node} (hn : root.Within n) (hkind : n.kind = Kind.function) :
    root.Yields (check n) (verdict n) := by
  rw [check, verdict]
  cases hf : n.function? with
  | none => exact .of_fault rfl (hn.not_consistent_of_function hkind hf)
  | some f =>
    have hbody : ∀ m ∈ Node.walkPart f.body, root.Within m := fun m hm => hn.of_mem_body hf hm
    rcases Seen.steps_yields hbody {} with hsteps | ⟨⟨e, hsteps⟩, hroot⟩
    · simp only [hsteps, Seen.after, Option.none_or]
      cases (Node.walkPart f.body).find? Node.isExternalCall with
      | none => exact .of_eq rfl
      | some call =>
        cases (Node.walkPart f.body).find? Node.isAssignment with
        | none => exact .of_eq rfl
        | some assignment =>
          simp only [Option.map_some]
          split <;> exact .of_eq rfl
    · exact .of_fault (by simp only [hsteps]; rfl) hroot

end Reentrancy

/-! ## Access control -/

namespace AccessControl

variable {root : Node}

/-- Whether a node guards the caller. -/
def isGuard (n : Node) : Bool :=
  n.kind == Kind.conditional || n.callsOneOf guardCalls

/-- Guards are searched for. -/
lemma hasGuard_eq_search (ns : List Node) :
    hasGuard ns = Node.search Kind.conditional guardCalls ns := by
  induction ns with
  | nil => rfl
  | cons n ns ih =>
    rw [hasGuard, ih]
    rfl

/-- Whether the body of a function is searched for a guard. -/
def isCandidate (f : Node.FunctionView) : Bool :=
  !f.isConstructor && !f.isReadOnly && isExposed f.visibility && hasName f.name && f.body.isSome

/-- A function that others can call and that may change state is reported if its body has no
guard. -/
def verdict (n : Node) : List Finding :=
  match n.function? with
  | none => []
  | some f =>
    if isCandidate f && !(Node.walkPart f.body).any isGuard then
      [finding (f.name.getD "") (f.visibility.getD "") n.loc]
    else []

/-- The check for access control reports a candidate without a guard. -/
lemma check_eq {n : Node} {f : Node.FunctionView} (hf : n.function? = some f) :
    check n = reportUnless (isCandidate f) (hasGuard (Node.walkPart f.body))
      (finding (f.name.getD "") (f.visibility.getD "") n.loc) := by
  simp only [check, hf, isCandidate]
  cases f.body with
  | none => cases f.isConstructor <;> cases f.isReadOnly <;> simp [reportUnless]
  | some body =>
    cases f.isConstructor <;> cases f.isReadOnly <;> cases isExposed f.visibility <;>
      cases hasName f.name <;> rfl

/-- The check for access control yields its verdict. -/
lemma check_yields {n : Node} (hn : root.Within n) (hkind : n.kind = Kind.function) :
    root.Yields (check n) (verdict n) := by
  cases hf : n.function? with
  | none =>
    exact .of_fault (by rw [check, hf]) (hn.not_consistent_of_function hkind hf)
  | some f =>
    rw [check_eq hf, verdict, hf, hasGuard_eq_search]
    exact reportUnless_yields _
      (Node.search_yields Kind.conditional guardCalls fun m hm => hn.of_mem_body hf hm) _

end AccessControl

/-! ## Gas -/

namespace Gas

variable {root : Node}

/-- Whether an operand is an access to the member that makes a bound dynamic. -/
def isBoundMember (operand : Option Node) : Bool :=
  operand.any fun n => n.kind == Kind.member && n.member? == some (some boundMember)

/-- The check of an operand tells whether it is the bound member. -/
lemma selectsBound_yields {operand : Option Node} (h : ∀ n ∈ operand, root.Within n) :
    root.Yields (selectsBound operand) (isBoundMember operand) := by
  cases operand with
  | none => exact .of_eq rfl
  | some n =>
    by_cases hkind : n.kind = Kind.member
    · cases hview : n.member? with
      | none =>
        refine .of_fault (by simp [selectsBound, hkind, hview]; rfl) fun hroot => ?_
        obtain ⟨_, hsome⟩ := (hroot.answers (h n rfl)).member hkind
        rw [hview] at hsome
        cases hsome
      | some name => exact .of_eq (by simp [selectsBound, isBoundMember, hkind, hview])
    · exact .of_eq (by simp [selectsBound, isBoundMember, hkind])

/-- Whether a condition is an access to the bound member, or a binary operation with such an
operand. -/
def boundIsDynamic (condition : Option Node) : Bool :=
  isBoundMember condition ||
    condition.any fun n => n.kind == Kind.binary &&
      (isBoundMember (n.part? .left) || isBoundMember (n.part? .right))

/-- The check of a condition tells whether the bound is dynamic. -/
lemma hasDynamicBound_yields {condition : Option Node} (h : ∀ n ∈ condition, root.Within n) :
    root.Yields (hasDynamicBound condition) (boundIsDynamic condition) := by
  cases condition with
  | none => exact .of_eq rfl
  | some n =>
    have hn := h n rfl
    -- of a binary operation the right operand is asked first, and the left one only if need be
    by_cases hkind : n.kind = Kind.binary
    · have hright := selectsBound_yields fun m hm => .part .right hn hm
      have hleft := selectsBound_yields fun m hm => .part .left hn hm
      have hbound : boundIsDynamic (some n) =
          (isBoundMember (n.part? .right) || isBoundMember (n.part? .left)) := by
        have hself : isBoundMember (some n) = false := by
          rw [isBoundMember, Option.any_some, hkind]
          rfl
        simp [boundIsDynamic, hself, hkind, Bool.or_comm]
      rw [hasDynamicBound, if_pos (beq_iff_eq.2 hkind), hbound]
      rcases hview : n.binary? with _ | ⟨operator, left, right⟩
      · refine .of_fault rfl fun hroot => ?_
        obtain ⟨_, hsome⟩ := (hroot.answers hn).binary hkind
        rw [hview] at hsome
        cases hsome
      · obtain ⟨rfl, rfl⟩ := Node.operands_of_binary? hview
        rcases hright with hright | ⟨⟨e, hright⟩, hroot⟩
        · simp only [hright]
          cases isBoundMember (n.part? .right) with
          | true => exact .of_eq rfl
          | false => exact hleft
        · exact .of_fault (by simp only [hright]; rfl) hroot
    · have hself := selectsBound_yields h
      have hbound : boundIsDynamic (some n) = isBoundMember (some n) := by
        simp [boundIsDynamic, hkind]
      rw [hbound]
      simpa [hasDynamicBound, hkind] using hself

/-- A loop is reported for a dynamic bound and for more than one assignment in its body. -/
def verdict (n : Node) : List Finding :=
  (if boundIsDynamic (n.part? .condition) then [unboundedLoop n.loc] else [])
    ++ (if 1 < assignments (Node.walkPart (n.part? .body)) then [multipleChanges n.loc] else [])

/-- The check of a loop yields its verdict. -/
lemma check_yields {n : Node} (hn : root.Within n) (hkind : n.kind = Kind.loop) :
    root.Yields (check n) (verdict n) := by
  cases hbody : n.loopBody? with
  | none =>
    refine .of_fault (by rw [check, hbody]; cases n.condition? <;> rfl) fun hroot => ?_
    obtain ⟨-, hsome⟩ := (hroot.answers hn).loop hkind
    rw [hbody] at hsome
    cases hsome
  | some body =>
    obtain ⟨rfl, hcondition⟩ := Node.parts_of_loopBody? hbody
    simp only [check, verdict, hcondition, hbody]
    rcases hasDynamicBound_yields fun m hm => .part .condition hn hm with h | ⟨⟨e, h⟩, hroot⟩
    · exact .of_eq (by simp only [h])
    · exact .of_fault (by simp only [h]; rfl) hroot

end Gas

/-! ## Logic errors -/

namespace Logic

variable {root : Node}

/-- Whether a node changes state. -/
def isChange (n : Node) : Bool :=
  n.isAssignment || n.callsOneOf mutatingCalls

/-- Changes of state are searched for. -/
lemma changesState_eq_search (ns : List Node) :
    changesState ns = Node.search Kind.assignment mutatingCalls ns := by
  induction ns with
  | nil => rfl
  | cons n ns ih =>
    rw [changesState, ih]
    rfl

/-- Whether a function is searched for changes of state. -/
def isCandidate (f : Node.FunctionView) : Bool :=
  !f.isConstructor && !f.isReadOnly && hasName f.name && !isHidden f.visibility

/-- A function that others can call and that may change state is reported if it does not. -/
def verdict (n : Node) : List Finding :=
  match n.function? with
  | none => []
  | some f =>
    if isCandidate f && !(Node.walkPart f.body).any isChange then
      [missingUpdates (f.name.getD "") n.loc]
    else []

/-- The check for logic errors reports a candidate without a change. -/
lemma check_eq {n : Node} {f : Node.FunctionView} (hf : n.function? = some f) :
    check n = reportUnless (isCandidate f) (changesState (Node.walkPart f.body))
      (missingUpdates (f.name.getD "") n.loc) := by
  simp only [check, hf, isCandidate]
  cases f.isConstructor <;> cases f.isReadOnly <;> cases isHidden f.visibility <;>
    cases hasName f.name <;> rfl

/-- The check for logic errors yields its verdict. -/
lemma check_yields {n : Node} (hn : root.Within n) (hkind : n.kind = Kind.function) :
    root.Yields (check n) (verdict n) := by
  cases hf : n.function? with
  | none => exact .of_fault (by rw [check, hf]) (hn.not_consistent_of_function hkind hf)
  | some f =>
    rw [check_eq hf, verdict, hf, changesState_eq_search]
    exact reportUnless_yields _
      (Node.search_yields Kind.assignment mutatingCalls fun m hm => hn.of_mem_body hf hm) _

/-- The left operand and the operator of the comparison that an `if` makes: its condition is a
binary operation that has both operands. -/
def comparison? (n : Node) : Option (Node × String) :=
  match n.condition?.join.bind Node.binary? with
  | some (operator, some left, some _) => some (left, operator)
  | _ => none

/-- Takes the comparison of an `if` into account. -/
def State.note (s : State) (n : Node) : State :=
  match comparison? n with
  | some (left, operator) =>
    { s with comparisons := Comparisons.add left.serialize operator s.comparisons }
  | none => s

end Logic

/-! ## Walks -/

/-- The call of a handler leaves a state; if it fails instead, the tree is not consistent. -/
def Aftermath.Leaves {σ : Type} (root : Node) (x : Aftermath σ) (s : σ) : Prop :=
  x = ⟨s, none⟩ ∨ (∃ e, x.fault = some e) ∧ ¬ root.Consistent

/-- What handlers do to a state, by the kind of node that they are for. -/
abbrev Effects (σ : Type) := List (String × (σ → Node → σ))

/-- The effects of a node, one after the other. -/
def Effects.atNode {σ : Type} (effects : Effects σ) (s : σ) (n : Node) : σ :=
  effects.foldl (fun s effect => if effect.1 == n.kind then effect.2 s n else s) s

namespace HandlerTable

variable {σ : Type} {root : Node} {table : HandlerTable σ} {effects : Effects σ}

/-- The handlers of a table have these effects at everything that is reached. -/
def Performs (table : HandlerTable σ) (root : Node) (effects : Effects σ) : Prop :=
  List.Forall₂ (fun row effect => row.1 = effect.1 ∧
    ∀ s n, root.Within n → n.kind = row.1 → (row.2 s n).Leaves root (effect.2 s n)) table effects

/-- What a table of handlers leaves at a node is the effect there. -/
lemma atNode_leaves (h : table.Performs root effects) {n : Node} (hn : root.Within n) (s : σ) :
    (table.atNode s n).Leaves root (effects.atNode s n) := by
  induction h generalizing s with
  | nil => exact .inl rfl
  | @cons row effect table effects hrow _ ih =>
    rcases row with ⟨kind, handler⟩
    obtain ⟨rfl, heffect⟩ := hrow
    rw [Effects.atNode, List.foldl_cons, ← Effects.atNode]
    by_cases hkind : effect.1 = n.kind
    · rw [atNode, if_pos (beq_iff_eq.2 hkind), if_pos (beq_iff_eq.2 hkind)]
      rcases hx : handler s n with ⟨s', fault⟩
      have hleaves := heffect s n hn hkind.symm
      simp only [hx] at hleaves
      rcases hleaves with hleft | ⟨⟨e, hfault⟩, hroot⟩
      · cases hleft
        exact ih _
      · obtain rfl : fault = some e := hfault
        exact .inr ⟨⟨e, rfl⟩, hroot⟩
    · rw [atNode, if_neg (mt beq_iff_eq.1 hkind), if_neg (mt beq_iff_eq.1 hkind)]
      exact ih s

/-- Along a walk, the effects of the nodes follow one another. -/
lemma overNodes_leaves (h : table.Performs root effects) {ns : List Node}
    (hns : ∀ n ∈ ns, root.Within n) (s : σ) :
    (table.overNodes s ns).Leaves root (ns.foldl effects.atNode s) := by
  induction ns generalizing s with
  | nil => exact .inl rfl
  | cons n ns ih =>
    rw [overNodes, List.foldl_cons]
    -- a fault ends the walk, and then it is the tree that is to blame
    have hleaves := atNode_leaves h (hns n List.mem_cons_self) s
    rcases hx : table.atNode s n with ⟨s', fault⟩
    rw [hx] at hleaves
    rcases hleaves with hleft | ⟨⟨e, hfault⟩, hroot⟩
    · cases hleft
      exact ih (fun m hm => hns m (List.mem_cons_of_mem _ hm)) _
    · obtain rfl : fault = some e := hfault
      exact .inr ⟨⟨e, rfl⟩, hroot⟩

end HandlerTable

/-- A detector whose handlers have known effects finds what it makes of them. -/
lemma Detector.detect_yields {root : Node} (d : Detector) {s : d.State}
    {table : HandlerTable d.State} {effects : Effects d.State} {found : List Finding}
    (hregister : d.register = .ok (s, table)) (htable : table.Performs root effects)
    (hfinish : d.finish (root.preorder.foldl effects.atNode s) = .ok found) :
    root.Yields (d.detect root) found := by
  have hwalk := HandlerTable.overNodes_leaves htable
    (fun n hn => Node.Within.of_mem_walk .root hn) s
  simp only [detect, hregister]
  rw [Node.walk_eq_preorder] at hwalk ⊢
  rcases hx : table.overNodes s root.preorder with ⟨s', fault⟩
  rw [hx] at hwalk
  rcases hwalk with hleft | ⟨⟨e, hfault⟩, hroot⟩
  · cases hleft
    exact .of_eq hfinish
  · obtain rfl : fault = some e := hfault
    exact .of_fault rfl hroot

/-! ## The default detectors -/

section Detectors

variable {root : Node}

/-- A handler that collects what a check finds leaves it behind. -/
lemma collect_leaves {check : Node → Except Fault (List Finding)} {n : Node}
    {more : List Finding} (h : root.Yields (check n) more) (found : List Finding) :
    (collect check found n).Leaves root (found ++ more) := by
  unfold collect
  rcases h with h | ⟨⟨e, h⟩, hroot⟩
  · rw [h]
    exact .inl rfl
  · rw [h]
    exact .inr ⟨⟨e, rfl⟩, hroot⟩

/-- A handler that collects what a check finds adds the verdicts. -/
lemma performs_collect {kind : String} {check : Node → Except Fault (List Finding)}
    {verdict : Node → List Finding}
    (h : ∀ n, root.Within n → n.kind = kind → root.Yields (check n) (verdict n)) :
    HandlerTable.Performs [(kind, collect check)] root
      [(kind, fun found n => found ++ verdict n)] := by
  refine .cons ⟨rfl, ?_⟩ .nil
  intro found n hn hkind
  exact collect_leaves (h n hn hkind) found

/-- Adding verdicts along a walk collects those of the nodes of the kind. -/
lemma foldl_collect (kind : String) (verdict : Node → List Finding) (ns : List Node)
    (found : List Finding) :
    ns.foldl (Effects.atNode [(kind, fun found n => found ++ verdict n)]) found =
      found ++ (ns.filter fun n => n.kind == kind).flatMap verdict := by
  induction ns generalizing found with
  | nil => simp
  | cons n ns ih =>
    rw [List.foldl_cons, ih]
    by_cases hkind : n.kind = kind
    · simp [Effects.atNode, hkind]
    · simp [Effects.atNode, hkind, Ne.symm hkind]

/-- The detector for reentrancy finds the verdicts on functions, in preorder. -/
lemma reentrancyDetector_yields (root : Node) :
    root.Yields (reentrancyDetector.detect root)
      ((root.preorder.filter fun n => n.kind == Kind.function).flatMap Reentrancy.verdict) :=
  reentrancyDetector.detect_yields rfl
    (performs_collect fun _ hn hkind => Reentrancy.check_yields hn hkind)
    (congrArg Except.ok (foldl_collect _ _ _ []))

/-- The detector for access control finds the verdicts on functions, in preorder. -/
lemma accessControlDetector_yields (root : Node) :
    root.Yields (accessControlDetector.detect root)
      ((root.preorder.filter fun n => n.kind == Kind.function).flatMap AccessControl.verdict) :=
  accessControlDetector.detect_yields rfl
    (performs_collect fun _ hn hkind => AccessControl.check_yields hn hkind)
    (congrArg Except.ok (foldl_collect _ _ _ []))

/-- The detector for gas finds the verdicts on loops, in preorder. -/
lemma gasDetector_yields (root : Node) :
    root.Yields (gasDetector.detect root)
      ((root.preorder.filter fun n => n.kind == Kind.loop).flatMap Gas.verdict) :=
  gasDetector.detect_yields rfl (performs_collect fun _ hn hkind => Gas.check_yields hn hkind)
    (congrArg Except.ok (foldl_collect _ _ _ []))

namespace Logic

/-- What the handlers of the pass do. -/
def effects : Effects State :=
  [(Kind.conditional, State.note),
   (Kind.function, fun s n => { s with found := s.found ++ verdict n })]

/-- A condition leaves its comparisons behind. -/
lemma noteCondition_leaves {n : Node} (hn : root.Within n) (hkind : n.kind = Kind.conditional)
    (s : State) : (noteCondition s n).Leaves root (s.note n) := by
  cases hcondition : n.condition? with
  | none =>
    refine .inr ⟨⟨_, by rw [noteCondition, hcondition]⟩, fun hroot => ?_⟩
    have hsome := (hroot.answers hn).condition hkind
    rw [hcondition] at hsome
    cases hsome
  | some condition =>
    refine .inl ?_
    simp only [noteCondition, State.note, comparison?, hcondition, Option.join_some]
    rcases condition.bind Node.binary? with _ | ⟨operator, _ | left, _ | right⟩
    · rfl
    · rfl
    · rfl
    · rfl
    · rfl

/-- A function leaves its verdict behind. -/
lemma noteFunction_leaves {n : Node} (hn : root.Within n) (hkind : n.kind = Kind.function)
    (s : State) :
    (noteFunction s n).Leaves root { s with found := s.found ++ verdict n } := by
  rcases collect_leaves (check_yields hn hkind) s.found with h | ⟨⟨e, h⟩, hroot⟩
  · exact .inl (by rw [noteFunction, h])
  · exact .inr ⟨⟨e, h⟩, hroot⟩

/-- The handlers for logic errors have these effects. -/
lemma performs_handlers :
    HandlerTable.Performs [(Kind.conditional, noteCondition), (Kind.function, noteFunction)] root
      effects := by
  refine .cons ⟨rfl, ?_⟩ (.cons ⟨rfl, ?_⟩ .nil)
  · intro s n hn hkind
    exact noteCondition_leaves hn hkind s
  · intro s n hn hkind
    exact noteFunction_leaves hn hkind s

/-- The left operands and the operators of the comparisons that `if` statements make. -/
def comparisonsOf (ns : List Node) : List (Node × String) :=
  (ns.filter fun n => n.kind == Kind.conditional).filterMap comparison?

/-- The table of comparisons after some more. -/
def Comparisons.addAll (seen : Comparisons) (comparisons : List (Node × String)) : Comparisons :=
  comparisons.foldl (fun seen c => seen.add c.1.serialize c.2) seen

/-- The effect of a branch. -/
lemma effects_atNode_conditional {n : Node} (h : n.kind = Kind.conditional) (s : State) :
    effects.atNode s n = s.note n := by
  have hother : Kind.function ≠ Kind.conditional := by decide
  simp [effects, Effects.atNode, h, hother]

/-- The effect of a function. -/
lemma effects_atNode_function {n : Node} (h : n.kind = Kind.function) (s : State) :
    effects.atNode s n = { s with found := s.found ++ verdict n } := by
  have hother : Kind.conditional ≠ Kind.function := by decide
  simp [effects, Effects.atNode, h, hother]

/-- Other nodes have no effect. -/
lemma effects_atNode_other {n : Node} (hconditional : n.kind ≠ Kind.conditional)
    (hfunction : n.kind ≠ Kind.function) (s : State) : effects.atNode s n = s := by
  simp [effects, Effects.atNode, Ne.symm hconditional, Ne.symm hfunction]

/-- After a walk, the pass knows all comparisons and the findings about all functions. -/
lemma foldl_effects (ns : List Node) (s : State) :
    ns.foldl effects.atNode s =
      ⟨s.comparisons.addAll (comparisonsOf ns),
        s.found ++ (ns.filter fun n => n.kind == Kind.function).flatMap verdict⟩ := by
  induction ns generalizing s with
  | nil => simp [comparisonsOf, Comparisons.addAll]
  | cons n ns ih =>
    rw [List.foldl_cons, ih]
    by_cases hconditional : n.kind = Kind.conditional
    · have hother : Kind.conditional ≠ Kind.function := by decide
      rw [effects_atNode_conditional hconditional]
      rcases hcomparison : comparison? n with _ | ⟨left, operator⟩
      · simp [State.note, comparisonsOf, hconditional, hcomparison, hother]
      · simp [State.note, comparisonsOf, hconditional, hcomparison, hother, Comparisons.addAll]
    by_cases hfunction : n.kind = Kind.function
    · have hother : Kind.function ≠ Kind.conditional := by decide
      rw [effects_atNode_function hfunction]
      simp [comparisonsOf, hfunction, hother]
    · rw [effects_atNode_other hconditional hfunction]
      simp [comparisonsOf, hconditional, hfunction]

end Logic

/-- The detector for logic errors finds what it has about comparisons, then the verdicts on
functions. -/
lemma logicDetector_yields (root : Node) :
    root.Yields (logicDetector.detect root)
      (Logic.comparisonFindings (Logic.Comparisons.addAll [] (Logic.comparisonsOf root.preorder))
        ++ (root.preorder.filter fun n => n.kind == Kind.function).flatMap Logic.verdict) := by
  have hwalk := Logic.foldl_effects root.preorder {}
  exact logicDetector.detect_yields rfl Logic.performs_handlers
    (congrArg logicDetector.finish hwalk)

end Detectors

end ContractAudit
