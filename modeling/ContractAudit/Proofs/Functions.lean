import ContractAudit.Proofs.Operands

/-!
# Findings about functions

Two detectors look for something in the body of a function and report the function if it is not
there. `FunctionView.Unguarded` and `FunctionView.MissesUpdates` say outright which functions these
are, and `detect_functions` that they are reported, each once and in the order of the walk. A
function that misses updates has no assignment, so it cannot be reported for reentrancy.
-/

namespace ContractAudit

open Node (FunctionView)

namespace Node

/-- A node calls a function with this name, as a member or not. -/
def Calls (n : Node) (name : String) : Prop :=
  n.kind = Kind.call ∧ ∃ isMember, n.call? = some (some name, isMember)

/-- A node calls one of some functions exactly if it calls a function of that name. -/
lemma callsOneOf_iff {n : Node} {names : List String} :
    n.callsOneOf names = true ↔ ∃ name ∈ names, n.Calls name := by
  rw [callsOneOf, Bool.and_eq_true, beq_iff_eq, List.any_eq_true]
  constructor
  · rintro ⟨hkind, name, hname, hcall⟩
    rw [beq_iff_eq, Option.map_eq_some_iff] at hcall
    obtain ⟨⟨callee, isMember⟩, hcall, rfl⟩ := hcall
    exact ⟨name, hname, hkind, isMember, hcall⟩
  · rintro ⟨name, hname, hkind, isMember, hcall⟩
    refine ⟨hkind, name, hname, ?_⟩
    rw [beq_iff_eq, hcall]
    rfl

/-- A node calls none of some functions exactly if it calls no function of such a name. -/
lemma callsOneOf_eq_false_iff {n : Node} {names : List String} :
    n.callsOneOf names = false ↔ ∀ name ∈ names, ¬ n.Calls name := by
  rw [← Bool.not_eq_true, callsOneOf_iff]
  exact ⟨fun h name hname hcall => h ⟨name, hname, hcall⟩,
    fun h ⟨name, hname, hcall⟩ => h name hname hcall⟩

/-- A walk through a part meets no node with a property exactly if no node of the part has it. -/
lemma any_walkPart_eq_false_iff {part : Option Node} {p : Node → Bool} :
    (walkPart part).any p = false ↔ ∀ n, part = some n → ∀ m ∈ n.preorder, p m = false := by
  cases part with
  | none => simp [walkPart]
  | some n => simp [walkPart, walk_eq_preorder]

/-- The functions of a tree with the nodes that define them, parents before children. -/
def functions (root : Node) : List (Node × FunctionView) :=
  (root.preorder.filter fun n => n.kind == Kind.function).filterMap fun n =>
    n.function?.map fun f => (n, f)

/-- The functions of a tree come with what their nodes say of them. -/
lemma function?_of_mem_functions {root : Node} {p : Node × FunctionView}
    (h : p ∈ root.functions) : p.1.function? = some p.2 := by
  obtain ⟨n, -, hp⟩ := List.mem_filterMap.1 h
  obtain ⟨f, hf, rfl⟩ := Option.map_eq_some_iff.1 hp
  exact hf

/-- What is said about function nodes is said about functions, if nothing is said about nodes that
only look like one. -/
lemma flatMap_functions {verdict : Node → List Finding}
    (h : ∀ n, n.function? = none → verdict n = []) (root : Node) :
    (root.preorder.filter fun n => n.kind == Kind.function).flatMap verdict =
      root.functions.flatMap fun p => verdict p.1 := by
  rw [functions]
  induction root.preorder.filter fun n => n.kind == Kind.function with
  | nil => rfl
  | cons n ns ih =>
    rw [List.flatMap_cons, ih]
    cases hf : n.function? with
    | none => simp [hf, h n hf]
    | some f => simp [hf]

/-- If exactly the functions with a property are reported, the findings are about these, in the same
order. -/
lemma forall₂_filter {P : FunctionView → Prop} [DecidablePred P] {verdict : Node → List Finding}
    {report : Node × FunctionView → Finding} {R : Finding → Node × FunctionView → Prop}
    (hreport : ∀ p, P p.2 → R (report p) p) {ps : List (Node × FunctionView)}
    (h : ∀ p ∈ ps, verdict p.1 = if P p.2 then [report p] else []) :
    List.Forall₂ R (ps.flatMap fun p => verdict p.1) (ps.filter fun p => P p.2) := by
  induction ps with
  | nil => exact .nil
  | cons p ps ih =>
    have hrest := ih fun q hq => h q (List.mem_cons_of_mem _ hq)
    rw [List.flatMap_cons, h p List.mem_cons_self]
    by_cases hp : P p.2
    · rw [if_pos hp, List.filter_cons_of_pos (by simpa using hp)]
      exact .cons (hreport p hp) hrest
    · rw [if_neg hp, List.filter_cons_of_neg (by simpa using hp)]
      exact hrest

namespace FunctionView

/-- The function has a name, is no constructor and does not promise to leave the state alone. -/
structure MayWrite (f : FunctionView) : Prop where
  not_constructor : f.isConstructor = false
  not_view : f.mutability ≠ some "view"
  not_pure : f.mutability ≠ some "pure"
  named : ∃ name, f.name = some name ∧ name ≠ ""

/-- Anyone can call the function, and its body has neither an `if` nor a call of a guard. -/
structure Unguarded (f : FunctionView) : Prop extends f.MayWrite where
  exposed : f.visibility = some "public" ∨ f.visibility = some "external"
  unguarded : ∃ body, f.body = some body ∧ ∀ m ∈ body.preorder, m.kind ≠ Kind.conditional ∧
    ∀ name ∈ ["require", "onlyOwner", "isAdmin", "onlyRole"], ¬ m.Calls name

/-- Others can call the function, and if it has a body, this has neither an assignment nor a call
that changes state. -/
structure MissesUpdates (f : FunctionView) : Prop extends f.MayWrite where
  not_hidden : f.visibility ≠ some "private" ∧ f.visibility ≠ some "internal"
  unchanged : ∀ body, f.body = some body → ∀ m ∈ body.preorder, m.kind ≠ Kind.assignment ∧
    ∀ name ∈ ["push", "pop", "transfer", "send", "mint", "burn"], ¬ m.Calls name

/-- An empty name counts as none. -/
lemma hasName_iff {name : Option String} :
    hasName name = true ↔ ∃ s, name = some s ∧ s ≠ "" := by
  cases name <;> simp [hasName]

/-- A function may write exactly if it has a name and is neither a constructor nor read-only. -/
lemma mayWrite_iff {f : FunctionView} :
    f.MayWrite ↔ f.isConstructor = false ∧ f.isReadOnly = false ∧ hasName f.name = true := by
  rw [isReadOnly, Bool.or_eq_false_iff, beq_eq_false_iff_ne, beq_eq_false_iff_ne, hasName_iff]
  constructor
  · intro h
    exact ⟨h.not_constructor, ⟨h.not_view, h.not_pure⟩, h.named⟩
  · rintro ⟨hconstructor, ⟨hview, hpure⟩, hnamed⟩
    exact ⟨hconstructor, hview, hpure, hnamed⟩

end FunctionView

end Node

/-! ## Missing guards -/

namespace AccessControl

/-- A node is no guard exactly if it is no branch and calls no guard. -/
lemma isGuard_eq_false_iff {m : Node} :
    isGuard m = false ↔ m.kind ≠ Kind.conditional ∧ ∀ name ∈ guardCalls, ¬ m.Calls name := by
  rw [isGuard, Bool.or_eq_false_iff, beq_eq_false_iff_ne, Node.callsOneOf_eq_false_iff]

/-- A function is unguarded exactly if it is a candidate without a guard in its body. -/
lemma unguarded_iff {f : FunctionView} :
    f.Unguarded ↔ (isCandidate f && !(Node.walkPart f.body).any isGuard) = true := by
  simp only [isCandidate, isExposed, Bool.and_eq_true, Bool.not_eq_true', Bool.or_eq_true,
    beq_iff_eq, Node.any_walkPart_eq_false_iff, isGuard_eq_false_iff, Option.isSome_iff_exists]
  constructor
  · intro h
    obtain ⟨hconstructor, hreadOnly, hnamed⟩ := FunctionView.mayWrite_iff.1 h.toMayWrite
    obtain ⟨body, hbody, hguard⟩ := h.unguarded
    -- the search is over whatever body there is, and there is only this one
    refine ⟨⟨⟨⟨⟨hconstructor, hreadOnly⟩, h.exposed⟩, hnamed⟩, body, hbody⟩, ?_⟩
    intro n hn
    cases hbody.symm.trans hn
    exact hguard
  · rintro ⟨⟨⟨⟨⟨hconstructor, hreadOnly⟩, hexposed⟩, hnamed⟩, body, hbody⟩, hguard⟩
    exact ⟨FunctionView.mayWrite_iff.2 ⟨hconstructor, hreadOnly, hnamed⟩, hexposed, body, hbody,
      hguard body hbody⟩

instance : DecidablePred FunctionView.Unguarded := fun _ =>
  decidable_of_iff _ unguarded_iff.symm

/-- A finding is about a function that is not guarded: it has the name, the visibility and the
place of the function. -/
def IsAbout (x : Finding) (p : Node × FunctionView) : Prop :=
  ∃ name visibility, p.2.name = some name ∧ p.2.visibility = some visibility ∧
    x = finding name visibility p.1.loc

/-- There is a finding on a function exactly if it is unguarded. -/
lemma verdict_eq {p : Node × FunctionView} (h : p.1.function? = some p.2) :
    verdict p.1 = if p.2.Unguarded then
      [finding (p.2.name.getD "") (p.2.visibility.getD "") p.1.loc] else [] := by
  simp only [verdict, h, unguarded_iff]

/-- The finding names the function, its visibility and its place. -/
lemma isAbout_of_unguarded {p : Node × FunctionView} (h : p.2.Unguarded) :
    IsAbout (finding (p.2.name.getD "") (p.2.visibility.getD "") p.1.loc) p := by
  obtain ⟨name, hname, -⟩ := h.named
  obtain ⟨visibility, hvisibility⟩ : ∃ visibility, p.2.visibility = some visibility :=
    h.exposed.elim (fun h => ⟨_, h⟩) fun h => ⟨_, h⟩
  refine ⟨name, visibility, hname, hvisibility, ?_⟩
  rw [hname, hvisibility]
  rfl

end AccessControl

/-! ## Missing updates -/

namespace Logic

/-- A node is no change exactly if it is no assignment and calls nothing that changes state. -/
lemma isChange_eq_false_iff {m : Node} :
    isChange m = false ↔ m.kind ≠ Kind.assignment ∧ ∀ name ∈ mutatingCalls, ¬ m.Calls name := by
  rw [isChange, Node.isAssignment, Bool.or_eq_false_iff, beq_eq_false_iff_ne,
    Node.callsOneOf_eq_false_iff]

/-- A function misses updates exactly if it is a candidate without a change in its body. -/
lemma missesUpdates_iff {f : FunctionView} :
    f.MissesUpdates ↔ (isCandidate f && !(Node.walkPart f.body).any isChange) = true := by
  simp only [isCandidate, isHidden, Bool.and_eq_true, Bool.not_eq_true', Bool.or_eq_false_iff,
    beq_eq_false_iff_ne, Node.any_walkPart_eq_false_iff, isChange_eq_false_iff]
  constructor
  · intro h
    obtain ⟨hconstructor, hreadOnly, hnamed⟩ := FunctionView.mayWrite_iff.1 h.toMayWrite
    exact ⟨⟨⟨⟨hconstructor, hreadOnly⟩, hnamed⟩, h.not_hidden⟩, h.unchanged⟩
  · rintro ⟨⟨⟨⟨hconstructor, hreadOnly⟩, hnamed⟩, hhidden⟩, hchange⟩
    exact ⟨FunctionView.mayWrite_iff.2 ⟨hconstructor, hreadOnly, hnamed⟩, hhidden, hchange⟩

instance : DecidablePred FunctionView.MissesUpdates := fun _ =>
  decidable_of_iff _ missesUpdates_iff.symm

/-- A finding is about a function that misses updates: it has the name and the place of the
function. -/
def IsAbout (x : Finding) (p : Node × FunctionView) : Prop :=
  ∃ name, p.2.name = some name ∧ x = missingUpdates name p.1.loc

/-- There is a finding on a function exactly if it misses updates. -/
lemma verdict_eq {p : Node × FunctionView} (h : p.1.function? = some p.2) :
    verdict p.1 = if p.2.MissesUpdates then
      [missingUpdates (p.2.name.getD "") p.1.loc] else [] := by
  simp only [verdict, h, missesUpdates_iff]

/-- The finding names the function and its place. -/
lemma isAbout_of_missesUpdates {p : Node × FunctionView} (h : p.2.MissesUpdates) :
    IsAbout (missingUpdates (p.2.name.getD "") p.1.loc) p := by
  obtain ⟨name, hname, -⟩ := h.named
  refine ⟨name, hname, ?_⟩
  rw [hname]
  rfl

/-- The findings about functions among findings. -/
def omissions (found : List Finding) : List Finding :=
  found.filter fun x => x.title == "Function Might Miss State Updates"

/-- Findings about comparisons are not about functions. -/
lemma omissions_append (seen : Comparisons) (ns : List Node) :
    omissions (comparisonFindings seen ++ ns.flatMap verdict) = ns.flatMap verdict := by
  rw [omissions, filter_title, if_neg (by decide), if_pos rfl, List.nil_append]

end Logic

/-! ## Reentrancy -/

/-- Without an assignment in the body nothing is found. -/
lemma Reentrancy.verdict_of_missesUpdates {p : Node × FunctionView}
    (hp : p.1.function? = some p.2) (h : p.2.MissesUpdates) : verdict p.1 = [] := by
  have hnone : (Node.walkPart p.2.body).find? Node.isAssignment = none := by
    rw [← Option.not_isSome_iff_eq_none, List.find?_isSome, ← List.any_eq_true, Bool.not_eq_true,
      Node.any_walkPart_eq_false_iff]
    intro body hbody m hm
    exact beq_eq_false_iff_ne.2 (h.unchanged body hbody m hm).1
  simp only [verdict, hp, hnone]
  split
  · cases ‹_›
  · rfl

/-- A public function of some statements. -/
def publicFunction (name : String) (line : Int) (statements : List Node) : Node :=
  .mk Kind.function ⟨line, 0⟩ "" [.mk "function_body" ⟨line, 0⟩ "" statements .plain]
    (.function (some name) (some "public") none false (some (.inside [0])))

/-- A function that calls out before it assigns, and one that only calls out. -/
def payAndPing : Node :=
  .mk Kind.sourceUnit ⟨1, 0⟩ ""
    [publicFunction "pay" 1
      [.mk Kind.call ⟨2, 0⟩ "" [] (.call (some "call") true),
       .mk Kind.assignment ⟨3, 0⟩ "" [] (.assignment "=")],
     publicFunction "ping" 5 [.mk Kind.call ⟨6, 0⟩ "" [] (.call (some "call") true)]]
    .sourceUnit

end ContractAudit
