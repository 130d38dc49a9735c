import ContractAudit.Proofs.Counterparts
import ContractAudit.Proofs.Outcomes

/-!
# Trees whose kinds can be trusted

Detectors look at the kind of a node and then ask for what nodes of this kind carry. They reach
nodes through children and through the parts that nodes refer to. In a consistent tree every node
that is reached in this way is what it looks like, so every such question has an answer.

The references of a built node lead to its children or to what its children wrap, so nothing is
reached in a typed tree of a text but its own nodes (`within_iff_mem_preorder`), and such a tree is
consistent if the concrete tree has types of its own (`exists_consistent_parseSource`).
-/

namespace ContractAudit

namespace Detail

variable {α : Type} {d : Detail α}

/-! ## Inversion by kind -/

/-- Inversion for functions. -/
lemma function_of_kind? (h : d.kind? = some Kind.function) :
    ∃ name visibility mutability isConstructor body,
      d = .function name visibility mutability isConstructor body := by
  cases d with
  | function name visibility mutability isConstructor body => exact ⟨_, _, _, _, _, rfl⟩
  | plain => cases h
  | _ => exact absurd (Option.some.inj h) (by decide)

/-- Inversion for branches. -/
lemma conditional_of_kind? (h : d.kind? = some Kind.conditional) :
    ∃ condition, d = .conditional condition := by
  cases d with
  | conditional condition => exact ⟨_, rfl⟩
  | plain => cases h
  | _ => exact absurd (Option.some.inj h) (by decide)

/-- Inversion for loops. -/
lemma loop_of_kind? (h : d.kind? = some Kind.loop) :
    ∃ condition body, d = .loop condition body := by
  cases d with
  | loop condition body => exact ⟨_, _, rfl⟩
  | plain => cases h
  | _ => exact absurd (Option.some.inj h) (by decide)

/-- Inversion for calls. -/
lemma call_of_kind? (h : d.kind? = some Kind.call) :
    ∃ callee isMember, d = .call callee isMember := by
  cases d with
  | call callee isMember => exact ⟨_, _, rfl⟩
  | plain => cases h
  | _ => exact absurd (Option.some.inj h) (by decide)

/-- Inversion for accesses to members. -/
lemma member_of_kind? (h : d.kind? = some Kind.member) : ∃ name, d = .member name := by
  cases d with
  | member name => exact ⟨_, rfl⟩
  | plain => cases h
  | _ => exact absurd (Option.some.inj h) (by decide)

/-- Inversion for operations on two operands. -/
lemma binary_of_kind? (h : d.kind? = some Kind.binary) :
    ∃ operator left right, d = .binary operator left right := by
  cases d with
  | binary operator left right => exact ⟨_, _, _, rfl⟩
  | plain => cases h
  | _ => exact absurd (Option.some.inj h) (by decide)

end Detail

namespace Node

/-! ## Nodes that are reached from a root -/

/-- Going down from a node of a tree, one stays in the tree. -/
lemma mem_preorder_of_descend {root m c : Node} {path : List Nat} (hm : m ∈ root.preorder)
    (h : m.descend path = some c) : c ∈ root.preorder := by
  induction path generalizing m with
  | nil =>
    obtain rfl := Option.some.inj h
    exact hm
  | cons i path ih =>
    obtain ⟨child, hchild, h⟩ := descend_cons_eq_some.1 h
    exact ih (mem_preorder_of_mem_children hm (List.mem_of_getElem? hchild)) h

/-- The nodes that are reached from a root through children and through the parts that nodes refer
to. -/
inductive Within (root : Node) : Node → Prop where
  | root : Within root root
  | child {m c : Node} (h : Within root m) (hc : c ∈ m.children) : Within root c
  | part {m c : Node} (role : Role) (h : Within root m) (hc : m.part? role = some c) :
      Within root c

mutual

/-- All nodes of a tree are reached from its root. -/
theorem Within.of_mem_preorder {root m : Node} :
    (n : Node) → root.Within n → m ∈ n.preorder → root.Within m
  | mk kind loc text children detail, hn, h => by
    rcases List.mem_cons.1 h with rfl | h
    · exact hn
    · exact Within.of_mem_preorders children (fun c hc => .child hn hc) h

/-- All nodes of a list of trees are reached if its roots are. -/
theorem Within.of_mem_preorders {root m : Node} :
    (ns : List Node) → (∀ n ∈ ns, root.Within n) → m ∈ preorders ns → root.Within m
  | [], _, h => by cases h
  | n :: ns, hns, h => by
    rcases List.mem_append.1 h with h | h
    · exact Within.of_mem_preorder n (hns n List.mem_cons_self) h
    · exact Within.of_mem_preorders ns (fun c hc => hns c (List.mem_cons_of_mem _ hc)) h

end

/-- A walk visits nothing but what is reached. -/
lemma Within.of_mem_walk {root n m : Node} (hn : root.Within n) (h : m ∈ n.walk) :
    root.Within m := by
  rw [walk_eq_preorder] at h
  exact .of_mem_preorder n hn h

/-- A walk through a part visits nothing but what is reached. -/
lemma Within.of_mem_walkPart {root n m : Node} {role : Role} (hn : root.Within n)
    (h : m ∈ walkPart (n.part? role)) : root.Within m := by
  cases hpart : n.part? role with
  | none =>
    rw [hpart] at h
    cases h
  | some c =>
    rw [hpart] at h
    exact Within.of_mem_walk (.part role hn hpart) h

/-! ## Consistent trees -/

/-- Everything that is reached from the root is what it looks like. -/
def Consistent (root : Node) : Prop :=
  ∀ n, root.Within n → n.Genuine

/-- The kinds of nodes that carry something. -/
def detailedKinds : List String :=
  [Kind.contract, Kind.function, Kind.conditional, Kind.loop, Kind.call, Kind.member,
   Kind.assignment, Kind.binary]

/-- A genuine node of a kind that carries something carries what goes with the kind. -/
lemma Genuine.kind?_eq {n : Node} (h : n.Genuine) (hkind : n.kind ∈ detailedKinds) :
    n.detail.kind? = some n.kind := by
  have hall : ∀ kind ∈ detailedKinds, kind ∈ Kind.all ∧ kind ≠ Kind.identifier := by decide
  obtain ⟨hmem, hother⟩ := hall n.kind hkind
  rcases h with hdetail | ⟨-, hidentifier | hforeign⟩
  · exact hdetail
  · exact absurd hidentifier hother
  · exact absurd hmem hforeign

/-- A node has an answer to everything that detectors ask nodes of its kind. -/
structure Answers (n : Node) : Prop where
  function : n.kind = Kind.function → ∃ f, n.function? = some f ∧ f.body = n.part? .body
  condition : n.kind = Kind.conditional → n.condition? = some (n.part? .condition)
  loop : n.kind = Kind.loop →
    n.condition? = some (n.part? .condition) ∧ n.loopBody? = some (n.part? .body)
  call : n.kind = Kind.call → ∃ callee isMember, n.call? = some (callee, isMember)
  member : n.kind = Kind.member → ∃ name, n.member? = some name
  binary : n.kind = Kind.binary →
    ∃ operator, n.binary? = some (operator, n.part? .left, n.part? .right)

/-- A genuine node has all answers. -/
lemma Genuine.answers {n : Node} (h : n.Genuine) : n.Answers := by
  have hdetail : ∀ {kind}, n.kind = kind → kind ∈ detailedKinds → n.detail.kind? = some kind := by
    intro kind hkind hmem
    rw [h.kind?_eq (hkind ▸ hmem), hkind]
  constructor
  case function =>
    intro hkind
    obtain ⟨_, _, _, _, _, hd⟩ := Detail.function_of_kind? (hdetail hkind (by decide))
    exact ⟨_, by rw [function?_eq, hd]; rfl, rfl⟩
  case condition =>
    intro hkind
    obtain ⟨_, hd⟩ := Detail.conditional_of_kind? (hdetail hkind (by decide))
    rw [condition?_eq, hd]
    rfl
  case loop =>
    intro hkind
    obtain ⟨_, _, hd⟩ := Detail.loop_of_kind? (hdetail hkind (by decide))
    rw [condition?_eq, loopBody?_eq, hd]
    exact ⟨rfl, rfl⟩
  case call =>
    intro hkind
    obtain ⟨_, _, hd⟩ := Detail.call_of_kind? (hdetail hkind (by decide))
    exact ⟨_, _, by rw [call?_eq, hd]; rfl⟩
  case member =>
    intro hkind
    obtain ⟨_, hd⟩ := Detail.member_of_kind? (hdetail hkind (by decide))
    exact ⟨_, by rw [member?_eq, hd]; rfl⟩
  case binary =>
    intro hkind
    obtain ⟨_, _, _, hd⟩ := Detail.binary_of_kind? (hdetail hkind (by decide))
    exact ⟨_, by rw [binary?_eq, hd]; rfl⟩

/-- In a consistent tree every question has an answer. -/
lemma Consistent.answers {root n : Node} (h : root.Consistent) (hn : root.Within n) :
    n.Answers :=
  (h n hn).answers

end Node

/-! ## Positions of children -/

section Positions

variable {t : ParseTree} {kept : List Tag} {children : List Node} {i : Nat}

/-- The first place with a property is a place of the list. -/
lemma lt_of_findIdx? {α : Type} {p : α → Bool} {xs : List α} (h : xs.findIdx? p = some i) :
    i < xs.length :=
  (List.findIdx?_eq_some_iff_getElem.1 h).1

/-- The last place with a property is a place of the list. -/
lemma lastIndex?_lt {α : Type} {p : α → Bool} {xs : List α} (h : lastIndex? p xs = some i) :
    i < xs.length := by
  obtain ⟨j, hj, rfl⟩ := Option.map_eq_some_iff.1 h
  have hlt := lt_of_findIdx? hj
  rw [List.length_reverse] at hlt
  omega

/-- The place of a field is a place among the kept children. -/
lemma fieldIndex?_lt {field : String} (h : fieldIndex? t kept field = some i) :
    i < kept.length := by
  unfold fieldIndex? at h
  split at h
  · cases h
  · rw [lookup?_spanTable] at h
    exact lastIndex?_lt h

/-- The first place is a place among the children. -/
lemma firstPosition?_lt (h : firstPosition? children = some i) : i < children.length := by
  unfold firstPosition? at h
  cases children with
  | nil => cases h
  | cons child more =>
    cases h
    exact Nat.succ_pos _

/-- The last place is a place among the children. -/
lemma lastPosition?_lt (h : lastPosition? children = some i) : i < children.length := by
  unfold lastPosition? at h
  cases children with
  | nil => cases h
  | cons child more =>
    cases h
    exact Nat.lt_succ_self _

/-- The place of an inner statement is a place among the children. -/
lemma innerStatement?_lt (h : innerStatement? children = some i) : i < children.length := by
  obtain ⟨j, hj, rfl⟩ := Option.map_eq_some_iff.1 h
  have hlt := lt_of_findIdx? hj
  rw [List.length_dropLast, List.length_drop] at hlt
  omega

/-- A position that is taken from a field or else from somewhere is one of a child, if the positions
from there are. -/
lemma fieldIndex?_or_lt {field : String} {other : Option Nat}
    (hkept : kept.length = children.length) (hother : ∀ j, other = some j → j < children.length)
    (h : (fieldIndex? t kept field).or other = some i) : i < children.length := by
  rcases Option.or_eq_some_iff.1 h with h | ⟨-, h⟩
  · exact hkept ▸ fieldIndex?_lt h
  · exact hother i h

end Positions

/-! ## References of built nodes -/

/-- The reference to the part that plays a role. -/
def Detail.reference? {α : Type} (d : Detail α) (role : Role) : Option (Reference α) :=
  match d, role with
  | .function _ _ _ _ body, .body => body
  | .conditional condition, .condition => condition
  | .loop condition _, .condition => condition
  | .loop _ body, .body => body
  | .binary _ left _, .left => left
  | .binary _ _ right, .right => right
  | _, _ => none

/-- A part of a node is what the reference to it stands for. -/
lemma Node.part?_eq_resolve? (n : Node) (role : Role) :
    n.part? role = n.resolve? (n.detail.reference? role) := by
  unfold part?
  cases n.detail <;> cases role <;> rfl

/-- Bodies are referred to as children, all other parts as what children wrap. -/
def Reference.LeadsTo (children : List Node) (role : Role) (r : Reference Node) : Prop :=
  ∃ i < children.length, r = match role with
    | .body => childReference i
    | _ => unwrappedReference children i

/-- A reference that is made for a place among the children leads there. -/
lemma Reference.LeadsTo.of_map {children : List Node} {role : Role} {position : Option Nat}
    {r : Reference Node} (hposition : ∀ i, position = some i → i < children.length)
    (h : position.map (match role with
      | .body => childReference
      | _ => unwrappedReference children) = some r) : r.LeadsTo children role := by
  obtain ⟨i, hi, rfl⟩ := Option.map_eq_some_iff.1 h
  exact ⟨i, hposition i hi, by cases role <;> rfl⟩

section Shapes

variable {bytes : List UInt8} {t : ParseTree} {kept : List Tag} {children : List Node}
  {role : Role} {r : Reference Node}

/-- The body of a function is reached through its children. -/
lemma functionDetail_reference? (hkept : kept.length = children.length)
    (h : (functionDetail bytes t kept children).reference? role = some r) :
    r.LeadsTo children role := by
  cases role with
  | body =>
    exact .of_map (fun _ => fieldIndex?_or_lt hkept fun _ hj => hkept ▸ lt_of_findIdx? hj) h
  | _ => cases h

/-- The condition of a branch is reached through its children. -/
lemma conditionalDetail_reference? (hkept : kept.length = children.length)
    (h : (conditionalDetail t kept children).reference? role = some r) :
    r.LeadsTo children role := by
  cases role with
  | condition => exact .of_map (fun _ => fieldIndex?_or_lt hkept fun _ => firstPosition?_lt) h
  | _ => cases h

/-- The parts of a loop are reached through its children. -/
lemma loopDetail_reference? (hkept : kept.length = children.length)
    (h : (loopDetail t kept children).reference? role = some r) :
    r.LeadsTo children role := by
  cases role with
  | body => exact .of_map (fun _ => fieldIndex?_or_lt hkept fun _ => lastPosition?_lt) h
  | condition => exact .of_map (fun _ => fieldIndex?_or_lt hkept fun _ => innerStatement?_lt) h
  | _ => cases h

/-- The operands of an operation are reached through its children. -/
lemma binaryDetail_reference? (hkept : kept.length = children.length)
    (h : (binaryDetail t kept children).reference? role = some r) :
    r.LeadsTo children role := by
  cases role with
  | left => exact .of_map (fun _ => fieldIndex?_or_lt hkept fun _ => firstPosition?_lt) h
  | right =>
    refine .of_map (fun _ => fieldIndex?_or_lt hkept fun j hj => ?_) h
    split at hj
    · exact lastPosition?_lt hj
    · cases hj
  | _ => cases h

/-- A built node refers to its children and to what its children wrap. -/
lemma shapeOf_reference? {kind : String} {detail : Detail Node}
    (hkept : kept.length = children.length) (h : shapeOf bytes t kept children = .ok (kind, detail))
    (hr : detail.reference? role = some r) : r.LeadsTo children role := by
  simp only [shapeOf] at h
  rcases hcontract : contractKind? t.tag.type with _ | contractKind
  · simp only [hcontract] at h
    split_ifs at h
    · cases h
      exact functionDetail_reference? hkept hr
    · cases h
      exact conditionalDetail_reference? hkept hr
    · cases h
      exact loopDetail_reference? hkept hr
    · rcases hcall : callDetail t kept children with e | detail'
      · rw [hcall] at h
        cases h
      · rw [hcall] at h
        cases h
        obtain ⟨callee, isMember, rfl⟩ := callDetail_ok hcall
        cases hr
    · cases h
      cases hr
    · cases h
      cases hr
    · cases h
      exact binaryDetail_reference? hkept hr
    · cases h
      cases hr
    · cases h
      cases hr
  · simp only [hcontract] at h
    cases h
    cases hr

end Shapes

/-- What a child wraps is inside the node. -/
lemma exists_unwrappedReference_eq (children : List Node) (i : Nat) :
    ∃ path, unwrappedReference children i = .inside path := by
  unfold unwrappedReference
  cases children[i]? with
  | none => exact ⟨_, rfl⟩
  | some child => exact ⟨_, rfl⟩

/-- Whatever leads to a child or to what it wraps is a path into the node. -/
lemma Reference.LeadsTo.exists_inside {children : List Node} {role : Role} {r : Reference Node}
    (h : r.LeadsTo children role) : ∃ path, r = .inside path := by
  obtain ⟨i, -, rfl⟩ := h
  cases role with
  | body => exact ⟨_, rfl⟩
  | _ => exact exists_unwrappedReference_eq children i

/-- The references of a built node lead to its children or what they wrap. -/
lemma MadeFrom.leadsTo {bytes : List UInt8} {typed : Nat × Node}
    {concrete : List ParseTree × ParseTree} (h : MadeFrom bytes typed concrete) {role : Role}
    {r : Reference Node} (hr : typed.2.detail.reference? role = some r) :
    r.LeadsTo typed.2.children role := by
  obtain ⟨parts, hparts⟩ := h.made
  obtain ⟨kind, detail, hshape, hnode⟩ := assemble_ok hparts
  have hkept : (parts.map Prod.fst).length = (parts.map Prod.snd).length := by simp
  rw [hnode] at hr ⊢
  exact shapeOf_reference? hkept hshape hr

/-! ## Typed trees of texts -/

/-- A typed tree of a text is a root over nodes that are made from concrete nodes. -/
lemma parseSource_eq_ok {source : Text} {root : ParseTree} {node : Node}
    (h : parseSource source root = .ok node) :
    ∃ bytes parts, Utf8.encode source = .ok bytes ∧ root.tag.hasError = false ∧
      buildKept bytes root.children = .ok parts ∧
      node = .mk Kind.sourceUnit ⟨1, 0⟩ source.toStringLossy (parts.map Prod.snd) .sourceUnit := by
  cases hbytes : Utf8.encode source with
  | error e =>
    rw [parseSource, hbytes] at h
    cases h
  | ok bytes =>
    have hroot : root.tag.hasError = false := by
      rw [parseSource, hbytes] at h
      cases hroot : root.tag.hasError with
      | false => rfl
      | true => simp [hroot] at h
    rw [parseSource_eq_buildKept hbytes hroot] at h
    cases hparts : buildKept bytes root.children with
    | error f =>
      rw [hparts] at h
      cases h
    | ok parts =>
      rw [hparts] at h
      exact ⟨bytes, parts, rfl, hroot, hparts, (Except.ok.inj h).symm⟩

/-- The references of a node in a typed tree of a text lead to its children and to what its children
wrap. -/
lemma leadsTo_of_reference? {source : Text} {root : ParseTree} {node n : Node} {role : Role}
    {r : Reference Node} (h : parseSource source root = .ok node) (hn : n ∈ node.preorder)
    (hr : n.detail.reference? role = some r) : r.LeadsTo n.children role := by
  obtain ⟨bytes, parts, -, -, hparts, hnode⟩ := parseSource_eq_ok h
  have hnone : ([] : List ParseTree).all ParseTree.isKept = true := rfl
  -- the root refers to nothing, and every other node is made from a concrete node
  rw [hnode] at hn
  rcases List.mem_cons.1 hn with rfl | hn
  · cases role <;> cases hr
  · rw [← Node.map_snd_outlines 0] at hn
    obtain ⟨typed, htyped, rfl⟩ := List.mem_map.1 hn
    obtain ⟨row, -, hmade⟩ :=
      exists_mem_of_forall₂ (buildKept_outline hnone root.children hparts) htyped
    exact hmade.leadsTo hr

/-- The parts of a node in a typed tree of a text are nodes below it. -/
lemma part?_mem_preorder {source : Text} {root : ParseTree} {node n c : Node} {role : Role}
    (h : parseSource source root = .ok node) (hn : n ∈ node.preorder)
    (hc : n.part? role = some c) : c ∈ n.preorder := by
  rw [Node.part?_eq_resolve?] at hc
  obtain ⟨r, hr, hc⟩ := Option.bind_eq_some_iff.1 hc
  obtain ⟨path, rfl⟩ := (leadsTo_of_reference? h hn hr).exists_inside
  exact Node.mem_preorder_of_descend n.mem_preorder_self hc

/-- What is reached from the root of a typed tree of a text is the nodes of the tree. -/
lemma within_iff_mem_preorder {source : Text} {root : ParseTree} {node n : Node}
    (h : parseSource source root = .ok node) : node.Within n ↔ n ∈ node.preorder := by
  refine ⟨fun hn => ?_, fun hn => .of_mem_preorder node .root hn⟩
  induction hn with
  | root => exact node.mem_preorder_self
  | child _ hc ih => exact Node.mem_preorder_of_mem_children ih hc
  | part role _ hc ih => exact Node.preorder_subset node ih (part?_mem_preorder h ih hc)

/-- A source that can be encoded has a consistent typed tree, if its concrete tree has no errors and
has types of its own. -/
lemma exists_consistent_parseSource {source : Text} {root : ParseTree}
    (hsource : source.any Utf8.isSurrogate = false) (hroot : root.tag.hasError = false)
    (htypes : root.OwnTypes) : ∃ node, parseSource source root = .ok node ∧ node.Consistent := by
  obtain ⟨node, hnode, hgenuine⟩ := exists_parseSource_eq_ok hsource hroot htypes
  exact ⟨node, hnode, fun n hn => hgenuine n ((within_iff_mem_preorder hnode).1 hn)⟩

end ContractAudit
