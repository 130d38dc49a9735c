import ContractAudit.Audit.Basic
import ContractAudit.Detector.Probe
import ContractAudit.Proofs.Building
import ContractAudit.Proofs.LowerCase
import ContractAudit.Proofs.Traversal

/-!
# Outcomes of analyses

An analysis fails exactly when its source cannot be encoded or its concrete tree has errors, and then
no detector is made. Otherwise it has the findings of its detectors and the first contract name that
is not empty. It always has an outcome (`Auditor.analyse_outcome`), as long as the concrete tree has
types of its own: a node whose type is a kind of typed nodes would look like such a node and lack
what detectors ask it for.
-/

namespace ContractAudit

/-! ## Concrete trees with types of their own -/

namespace ParseTree

/-- No node has a kind of typed nodes for its type. -/
def OwnTypes (root : ParseTree) : Prop :=
  ∀ t ∈ root.preorder, t.tag.type ∉ Kind.all

mutual

/-- A node with what is around it is a node of the tree. -/
theorem mem_preorder_of_mem_surrounded {row : List ParseTree × ParseTree}
    (around : List ParseTree) :
    (t : ParseTree) → row ∈ t.surrounded around → row.2 ∈ t.preorder
  | mk tag children, h => by
    rcases List.mem_cons.1 h with rfl | h
    · exact List.mem_cons_self
    · exact List.mem_cons_of_mem _ (mem_preorders_of_mem_surroundedAll _ children h)

/-- The same of a list of trees. -/
theorem mem_preorders_of_mem_surroundedAll {row : List ParseTree × ParseTree}
    (around : List ParseTree) :
    (ts : List ParseTree) → row ∈ surroundedAll around ts → row.2 ∈ preorders ts
  | [], h => by cases h
  | t :: ts, h => by
    rcases List.mem_append.1 h with h | h
    · exact List.mem_append_left _ (mem_preorder_of_mem_surrounded around t h)
    · exact List.mem_append_right _ (mem_preorders_of_mem_surroundedAll around ts h)

end

/-- Nodes that are kept below a root with types of its own have such types. -/
lemma OwnTypes.of_mem_keptBelow {root : ParseTree} (h : root.OwnTypes)
    {row : List ParseTree × ParseTree} (hrow : row ∈ root.keptBelow) :
    row.2.tag.type ∉ Kind.all := by
  apply h
  have hmem := mem_preorders_of_mem_surroundedAll [] root.children (List.mem_filter.1 hrow).1
  cases root
  exact List.mem_cons_of_mem _ hmem

end ParseTree

/-! ## Nodes that are what they look like -/

namespace Node

/-- A node carries what its kind asks for, or it is plain and its kind asks for nothing. -/
def Genuine (n : Node) : Prop :=
  n.detail.kind? = some n.kind ∨
    n.detail = .plain ∧ (n.kind = Kind.identifier ∨ n.kind ∉ Kind.all)

mutual

/-- Without depths, the outline of a node is its preorder. -/
theorem map_snd_outline (depth : Nat) :
    (n : Node) → (n.outline depth).map Prod.snd = n.preorder
  | mk kind loc text children detail => by
    rw [outline, preorder, List.map_cons, map_snd_outlines (depth + 1) children]

/-- Without depths, the outline of a list is its preorder. -/
theorem map_snd_outlines (depth : Nat) :
    (ns : List Node) → (outlines depth ns).map Prod.snd = preorders ns
  | [] => rfl
  | n :: ns => by
    rw [outlines, preorders, List.map_append, map_snd_outline depth n,
      map_snd_outlines depth ns]

end

/-- The name of a contract that has one. -/
def properName? (n : Node) : Option String :=
  match n.contract? with
  | some (some name, _) => if name = "" then none else some name
  | _ => none

/-- Contracts are exactly the nodes of their kind. -/
lemma Genuine.contract?_isSome {n : Node} (h : n.Genuine) :
    n.contract?.isSome = (n.kind == Kind.contract) := by
  rcases n with ⟨kind, loc, text, children, detail⟩
  rcases h with hkind | ⟨hplain, hkind⟩
  · cases detail with
    | plain => cases hkind
    | _ =>
      obtain rfl := Option.some.inj hkind
      rfl
  · obtain rfl : detail = .plain := hplain
    have hother : kind ≠ Kind.contract := by
      rintro rfl
      rcases hkind with hidentifier | hforeign
      · exact absurd (show Kind.contract = Kind.identifier from hidentifier) (by decide)
      · exact hforeign (show Kind.contract ∈ Kind.all by decide)
    exact (beq_eq_false_iff_ne.2 hother).symm

end Node

/-- The first proper name is found if every node is a contract. -/
lemma firstContractName_eq {ns : List Node} (h : ∀ n ∈ ns, n.contract?.isSome) :
    firstContractName ns = .ok ((ns.findSome? Node.properName?).getD unknownContract) := by
  induction ns with
  | nil => rfl
  | cons n ns ih =>
    obtain ⟨⟨name, contractKind⟩, hcontract⟩ :=
      Option.isSome_iff_exists.1 (h n List.mem_cons_self)
    have hrest := ih fun m hm => h m (List.mem_cons_of_mem _ hm)
    rw [firstContractName, List.findSome?_cons, Node.properName?, hcontract]
    cases name with
    | none => exact hrest
    | some name =>
      by_cases hempty : name = ""
      · simpa [hasName, hempty] using hrest
      · simp [hasName, hempty]

/-- Looking for a name among contracts is looking for it among all nodes. -/
lemma findSome?_filter_contract {ns : List Node} (h : ∀ n ∈ ns, n.Genuine) :
    (ns.filter fun n => n.kind == Kind.contract).findSome? Node.properName? =
      ns.findSome? Node.properName? := by
  induction ns with
  | nil => rfl
  | cons n ns ih =>
    have hrest := ih fun m hm => h m (List.mem_cons_of_mem _ hm)
    have hcontract := (h n List.mem_cons_self).contract?_isSome
    cases hkind : n.kind == Kind.contract with
    | true =>
      rw [List.filter_cons, hkind, if_pos rfl, List.findSome?_cons, List.findSome?_cons, hrest]
    | false =>
      rw [hkind, Option.isSome_eq_false_iff, Option.isNone_iff_eq_none] at hcontract
      have hname : n.properName? = none := by rw [Node.properName?, hcontract]
      rw [List.filter_cons, hkind, if_neg Bool.false_ne_true, List.findSome?_cons, hname, hrest]

/-- A tree of genuine nodes has the first name of a contract that is not empty. -/
lemma firstContractName_contracts {node : Node} (h : ∀ n ∈ node.preorder, n.Genuine) :
    firstContractName node.contracts =
      .ok ((node.preorder.findSome? Node.properName?).getD unknownContract) := by
  rw [Node.contracts, Node.walk_eq_preorder, firstContractName_eq, findSome?_filter_contract h]
  intro n hn
  obtain ⟨hmem, hkind⟩ := List.mem_filter.1 hn
  rw [(h n hmem).contract?_isSome, hkind]

/-! ## Parsing -/

/-- What is made from a concrete node with a type of its own is what it looks like. -/
lemma MadeFrom.genuine {bytes : List UInt8} {typed : Nat × Node}
    {concrete : List ParseTree × ParseTree} (h : MadeFrom bytes typed concrete)
    (htype : concrete.2.tag.type ∉ Kind.all) : typed.2.Genuine := by
  obtain ⟨parts, hparts⟩ := h.made
  obtain ⟨kind, detail, hshape, hnode⟩ := assemble_ok hparts
  rw [hnode]
  rcases shapeOf_ok hshape with hdetail | ⟨hplain, hown | hidentifier⟩
  · exact .inl hdetail
  · exact .inr ⟨hplain, .inr (hown ▸ htype)⟩
  · exact .inr ⟨hplain, .inl hidentifier⟩

/-- A concrete tree without errors and with types of its own has a typed tree, all of whose nodes are
what they look like. -/
lemma exists_parseSource_eq_ok {source : Text} {root : ParseTree}
    (hsource : source.any Utf8.isSurrogate = false) (hroot : root.tag.hasError = false)
    (htypes : root.OwnTypes) :
    ∃ node, parseSource source root = .ok node ∧ ∀ n ∈ node.preorder, n.Genuine := by
  obtain ⟨bytes, hbytes⟩ := Utf8.exists_encode_eq_ok hsource
  have hnone : ([] : List ParseTree).all ParseTree.isKept = true := rfl
  rw [parseSource_eq_buildKept hbytes hroot]
  cases hbuild : buildKept bytes root.children with
  | error f =>
    obtain ⟨row, hrow, htype⟩ := buildKept_error hnone root.children hbuild
    have hown := htypes.of_mem_keptBelow hrow
    rw [htype] at hown
    exact absurd (by decide) hown
  | ok parts =>
    have hmade := buildKept_outline hnone root.children hbuild
    refine ⟨_, rfl, ?_⟩
    intro n hn
    rcases List.mem_cons.1 hn with rfl | hn
    · exact .inl rfl
    · rw [← Node.map_snd_outlines 0] at hn
      obtain ⟨typed, htyped, rfl⟩ := List.mem_map.1 hn
      obtain ⟨row, hrow, hmatch⟩ := exists_mem_of_forall₂ hmade htyped
      exact hmatch.genuine (htypes.of_mem_keptBelow hrow)

/-- A source that cannot be encoded, and a concrete tree with errors, are refused. -/
lemma exists_parseSource_eq_error {source : Text} {root : ParseTree}
    (h : source.any Utf8.isSurrogate = true ∨ root.tag.hasError = true) :
    ∃ e, parseSource source root = .error e ∧ ∀ f, e ≠ .fault f := by
  cases hbytes : Utf8.encode source with
  | error e =>
    refine ⟨.encoding e, by rw [parseSource, hbytes], ?_⟩
    intro f hfault
    cases hfault
  | ok bytes =>
    rcases h with hsource | hroot
    · obtain ⟨e, he⟩ := Utf8.exists_encode_eq_error hsource
      rw [he] at hbytes
      cases hbytes
    · refine ⟨explain bytes root, by simp [parseSource, hbytes, hroot], ?_⟩
      intro f hfault
      unfold explain at hfault
      split at hfault
      · cases hfault
      · cases hfault

/-! ## Verdicts -/

/-- A source that cannot be read is told as such, whatever the detectors. -/
lemma verdictOf_of_error {e : ParseError} (h : ∀ f, e ≠ .fault f) (address : Text) :
    ∃ log, ∀ ds, verdictOf address (.error e) ds = .ok (.failed e, log) := by
  cases e with
  | fault f => exact absurd rfl (h f)
  | _ => exact ⟨_, fun ds => rfl⟩

/-- A genuine tree is told by its first proper name and what the detectors find. -/
lemma verdictOf_of_ok {node : Node} (h : ∀ n ∈ node.preorder, n.Genuine) (address : Text)
    (ds : List Detector) :
    ∃ log, verdictOf address (.ok node) ds =
      .ok (.completed ((node.preorder.findSome? Node.properName?).getD unknownContract)
        (runDetectors node ds).1, log) := by
  rw [verdictOf, verdictOfTree, firstContractName_contracts h]
  exact ⟨_, rfl⟩

namespace Analysis

/-- Whether the source could be analysed. -/
def succeeded (an : Analysis) : Bool :=
  match an.outcome with
  | .failed _ => false
  | .completed _ _ => true

/-- What was found. -/
def issues (an : Analysis) : List Issue :=
  match an.outcome with
  | .failed _ => []
  | .completed _ issues => issues

/-- The name of the contract, or null. -/
def contractName (an : Analysis) : Json :=
  match an.outcome with
  | .failed _ => .null
  | .completed name _ => name

/-- Why the source could not be analysed. -/
def errorMessage? (an : Analysis) : Option Text :=
  match an.outcome with
  | .failed message => some message
  | .completed _ _ => none

end Analysis

namespace Auditor

variable {a : Auditor} {source : Text} {root : ParseTree}

/-- A source that is refused has a failed analysis, whatever the detectors. -/
lemma analyse_of_refused (hparse : a.parse source = parseSource source root)
    (h : source.any Utf8.isSurrogate = true ∨ root.tag.hasError = true) (m : Moment)
    (address : Text) (firstId : Nat) :
    ∃ e log, parseSource source root = .error e ∧
      ∀ ds, ({ a with detectors := ds } : Auditor).analyse m address source firstId =
        .ok (⟨address, .failed (Text.ofString (failurePrefix ++ e.message)), m.timestamp⟩, log) := by
  obtain ⟨e, he, hfault⟩ := exists_parseSource_eq_error h
  obtain ⟨log, hverdict⟩ := verdictOf_of_error hfault address
  refine ⟨e, log, he, ?_⟩
  intro ds
  rw [analyse, hparse, he, hverdict]
  rfl

/-- A source that is not refused has its findings for an analysis, and the first name. -/
lemma analyse_of_parsed (hparse : a.parse source = parseSource source root)
    (hsource : source.any Utf8.isSurrogate = false) (hroot : root.tag.hasError = false)
    (htypes : root.OwnTypes) (m : Moment) (address : Text) (firstId : Nat) :
    ∃ node log, parseSource source root = .ok node ∧
      a.analyse m address source firstId =
        .ok (⟨address, .completed
          (Json.ofString ((node.preorder.findSome? Node.properName?).getD unknownContract))
          (numberFindings firstId (runDetectors node a.detectors).1), m.timestamp⟩, log) := by
  obtain ⟨node, hnode, hgenuine⟩ := exists_parseSource_eq_ok hsource hroot htypes
  obtain ⟨log, hverdict⟩ := verdictOf_of_ok hgenuine address a.detectors
  refine ⟨node, log, hnode, ?_⟩
  rw [analyse, hparse, hnode, hverdict]
  rfl

/-- Every analysis has an outcome. It fails exactly when the source has surrogates or its concrete
tree has errors: then it says why, and its result and its log are the same for every list of
detectors, as none of them is made. Otherwise it has the findings of the detectors on the typed
tree, and the first contract name that is not empty, parents before children, or the name for a
contract without one. -/
theorem analyse_outcome (a : Auditor) (m : Moment) (address source : Text) (firstId : Nat)
    {root : ParseTree} (hparse : a.parse source = parseSource source root)
    (htypes : root.OwnTypes) :
    ∃ an log, a.analyse m address source firstId = .ok (an, log) ∧
      an.address = address ∧ an.timestamp = m.timestamp ∧
      (an.succeeded = false ↔
        source.any Utf8.isSurrogate = true ∨ root.tag.hasError = true) ∧
      (an.succeeded = false →
        an.issues = [] ∧ an.contractName = .null ∧
        (∃ e, parseSource source root = .error e ∧
          an.errorMessage? =
            some (Text.ofString ("Failed to analyze contract: " ++ e.message))) ∧
        ∀ ds, ({ a with detectors := ds } : Auditor).analyse m address source firstId =
          .ok (an, log)) ∧
      (an.succeeded = true →
        an.errorMessage? = none ∧
        ∃ node, parseSource source root = .ok node ∧
          an.issues = numberFindings firstId (runDetectors node a.detectors).1 ∧
          an.contractName =
            Json.ofString ((node.preorder.findSome? Node.properName?).getD "Unknown")) := by
  by_cases hrefused : source.any Utf8.isSurrogate = true ∨ root.tag.hasError = true
  · obtain ⟨e, log, he, hanalyse⟩ := analyse_of_refused hparse hrefused m address firstId
    refine ⟨_, log, hanalyse a.detectors, rfl, rfl, iff_of_true rfl hrefused, ?_, nofun⟩
    intro _
    exact ⟨rfl, rfl, ⟨e, he, rfl⟩, hanalyse⟩
  · obtain ⟨hsource, hroot⟩ := not_or.1 hrefused
    obtain ⟨node, log, hnode, hanalyse⟩ := analyse_of_parsed hparse (Bool.eq_false_iff.2 hsource)
      (Bool.eq_false_iff.2 hroot) htypes m address firstId
    refine ⟨_, log, hanalyse, rfl, rfl, iff_of_false nofun hrefused, nofun, ?_⟩
    intro _
    exact ⟨rfl, node, hnode, rfl, rfl⟩

/-- The concrete tree of a contract without a name and a library with one. -/
def namedLibrary : ParseTree :=
  .mk ⟨"source_file", 0, 19, true, false, false, none⟩
    [.mk ⟨"contract_declaration", 0, 9, true, false, false, none⟩
      [.mk ⟨"contract", 0, 8, false, false, false, none⟩ []],
     .mk ⟨"library_declaration", 10, 19, true, false, false, none⟩
      [.mk ⟨"library", 10, 17, false, false, false, none⟩ [],
       .mk ⟨"identifier", 18, 19, true, false, false, some "name"⟩ []]]

/-- An auditor that takes every source for a library, with a detector that cannot be made and one
that sees contracts. -/
def libraryAuditor : Auditor :=
  ⟨⟨"explorer", none, "node", ⟨3, 3, 3⟩⟩, Weights.standard,
    [probeDetector "absent" none .atStart, probeDetector "present" (some Kind.contract) .never],
    fun source => parseSource source namedLibrary⟩

/-- A contract without a name before a library with one. -/
theorem analyse_outcome_namedLibrary :
    namedLibrary.OwnTypes ∧
      ∃ an log, libraryAuditor.analyse ⟨0, 0⟩ "0xab" "contract; library L" 1 = .ok (an, log) ∧
        an.succeeded = true ∧ an.errorMessage? = none ∧ an.contractName.isString "L" = true ∧
        an.issues.length = 2 := by
  have htypes : namedLibrary.OwnTypes := by
    unfold ParseTree.OwnTypes
    decide
  have hrun : ((libraryAuditor.analyse ⟨0, 0⟩ "0xab" "contract; library L" 1).toOption.map
      fun found => (found.1.contractName.isString "L", found.1.issues.length)) =
        some (true, 2) := by
    decide +kernel
  obtain ⟨an, log, han, -, -, hfailed, -, hsucceeded⟩ := analyse_outcome libraryAuditor ⟨0, 0⟩
    "0xab" "contract; library L" 1 rfl htypes
  have hdone : an.succeeded = true := by
    rw [← Bool.not_eq_false, hfailed]
    decide
  rw [han] at hrun
  obtain ⟨hname, hissues⟩ := Prod.mk.inj (Option.some.inj hrun)
  exact ⟨htypes, an, log, han, hdone, (hsucceeded hdone).1, hname, hissues⟩

end Auditor

end ContractAudit
