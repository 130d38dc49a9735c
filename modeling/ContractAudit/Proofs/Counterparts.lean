import ContractAudit.Proofs.Traversal
import Mathlib.Data.List.Forall2

/-!
# Trees in two formats

`Node.Reformatted f n n'` says that `n'` is the tree `n` in another format: lines are moved by `f`,
columns and the texts of inner nodes are whatever they are, and leaves have the same text up to
blanks. `Node.Counterparts` pairs the nodes that are reached in the same way from the two roots.
Counterparts are met together along a walk (`Node.Counterparts.walk`), and what a detector may ask a
node is the same at both: its call, its member, its function, its condition, its operands, and its
form (`Node.Reformatted.serialize_eq`).
-/

namespace ContractAudit

/-- The roles that a node can play for another one. -/
inductive Role where
  | body
  | condition
  | left
  | right

/-- The node that plays a role for `n`. -/
def Node.part? (n : Node) (role : Role) : Option Node :=
  match n.detail, role with
  | .function _ _ _ _ body, .body => n.resolve? body
  | .conditional condition, .condition => n.resolve? condition
  | .loop condition _, .condition => n.resolve? condition
  | .loop _ body, .body => n.resolve? body
  | .binary _ left _, .left => n.resolve? left
  | .binary _ _ right, .right => n.resolve? right
  | _, _ => none

/-- What a detail says apart from the parts that it refers to and the kind of a contract. -/
def Detail.attributes {α : Type} : Detail α → Detail Empty
  | .plain => .plain
  | .sourceUnit => .sourceUnit
  | .contract name _ => .contract name ""
  | .function name visibility mutability isConstructor _ =>
    .function name visibility mutability isConstructor none
  | .conditional _ => .conditional none
  | .loop _ _ => .loop none none
  | .call callee isMember => .call callee isMember
  | .member name => .member name
  | .assignment operator => .assignment operator
  | .binary operator _ _ => .binary operator none none

namespace Node

/-- The second tree is the first in another format, with its lines moved by `f`. -/
inductive Reformatted (f : Int → Int) : Node → Node → Prop where
  | intro {n n' : Node} (kind : n'.kind = n.kind) (line : n'.loc.line = f n.loc.line)
      (text : n.children = [] → normalizeBlanks n'.text = normalizeBlanks n.text)
      (attributes : n'.detail.attributes = n.detail.attributes)
      (children : List.Forall₂ (Reformatted f) n.children n'.children)
      (parts : ∀ role, Option.Rel (Reformatted f) (n.part? role) (n'.part? role)) :
      Reformatted f n n'

/-- Two nodes that are reached in the same way from the roots of two trees. -/
inductive Counterparts (root root' : Node) : Node → Node → Prop where
  | root : Counterparts root root' root root'
  | child {m m' c c' : Node} (i : Nat) (h : Counterparts root root' m m')
      (hc : m.children[i]? = some c) (hc' : m'.children[i]? = some c') :
      Counterparts root root' c c'
  | part {m m' c c' : Node} (role : Role) (h : Counterparts root root' m m')
      (hc : m.part? role = some c) (hc' : m'.part? role = some c') :
      Counterparts root root' c c'

namespace Reformatted

variable {f : Int → Int} {n n' : Node}

/-- The kind does not depend on the format. -/
lemma kind_eq (h : Reformatted f n n') : n'.kind = n.kind := by
  cases h
  assumption

/-- Lines are moved by `f`. -/
lemma line_eq (h : Reformatted f n n') : n'.loc.line = f n.loc.line := by
  cases h
  assumption

/-- Attributes do not depend on the format. -/
lemma attributes_eq (h : Reformatted f n n') : n'.detail.attributes = n.detail.attributes := by
  cases h
  assumption

/-- The children are the same in another format. -/
lemma children_rel (h : Reformatted f n n') :
    List.Forall₂ (Reformatted f) n.children n'.children := by
  cases h
  assumption

/-- What plays a role is the same in another format, or nothing plays it in both. -/
lemma part?_rel (h : Reformatted f n n') (role : Role) :
    Option.Rel (Reformatted f) (n.part? role) (n'.part? role) := by
  cases h with
  | intro _ _ _ _ _ parts => exact parts role

/-- Nodes reached in the same way are each other's format. -/
lemma of_counterparts {root root' : Node} (hroot : Reformatted f root root')
    (h : Counterparts root root' n n') : Reformatted f n n' := by
  induction h with
  | root => exact hroot
  | @child m m' c c' i _ hc hc' ih =>
    obtain ⟨hlen, hrel⟩ := List.forall₂_iff_get.1 ih.children_rel
    obtain ⟨hi, rfl⟩ := List.getElem?_eq_some_iff.1 hc
    obtain ⟨hi', rfl⟩ := List.getElem?_eq_some_iff.1 hc'
    exact hrel i hi hi'
  | @part m m' c c' role _ hc hc' ih =>
    have hrel := ih.part?_rel role
    rw [hc, hc'] at hrel
    cases hrel
    assumption

end Reformatted

mutual

/-- The form of a tree does not depend on its format. -/
theorem form_eq_of_reformatted {f : Int → Int} :
    (n n' : Node) → Reformatted f n n' → n'.form = n.form
  | mk kind loc text [] detail, mk kind' loc' text' children' detail', h => by
    cases h with
    | intro hkind _ htext _ hchildren _ =>
      cases hchildren
      have hkind' : kind' = kind := hkind
      have htext' : normalizeBlanks text' = normalizeBlanks text := htext rfl
      simp only [form, leafForm, Node.kind, Node.text, hkind', htext']
  | mk kind loc text (child :: more) detail, mk kind' loc' text' children' detail', h => by
    cases h with
    | intro hkind _ _ _ hchildren _ =>
      have hkind' : kind' = kind := hkind
      have hforms := forms_eq_of_reformatted (child :: more) children' hchildren
      cases hchildren
      simp only [form, hkind', hforms]

/-- The forms of a list of nodes do not depend on the format. -/
theorem forms_eq_of_reformatted {f : Int → Int} :
    (ns ns' : List Node) → List.Forall₂ (Reformatted f) ns ns' → forms ns' = forms ns
  | [], _, .nil => rfl
  | [n], [n'], .cons h .nil => by
    simp only [forms, form_eq_of_reformatted n n' h]
  | n :: m :: more, n' :: m' :: more', .cons h hs => by
    simp only [forms, form_eq_of_reformatted n n' h,
      forms_eq_of_reformatted (m :: more) (m' :: more') hs]

end

/-! ### Counterparts along a walk -/

section Walk

variable {f : Int → Int} {root root' : Node}

/-- Children of counterparts are counterparts. -/
lemma Counterparts.children {m m' : Node} (hroot : Reformatted f root root')
    (h : Counterparts root root' m m') :
    List.Forall₂ (Counterparts root root') m.children m'.children := by
  have hchildren := (hroot.of_counterparts h).children_rel
  refine List.forall₂_iff_get.2 ⟨hchildren.length_eq, ?_⟩
  intro i hi hi'
  exact .child i h (List.getElem?_eq_getElem hi) (List.getElem?_eq_getElem hi')

/-- Nodes that play the same role for counterparts are counterparts. -/
lemma Counterparts.part? {m m' : Node} (hroot : Reformatted f root root')
    (h : Counterparts root root' m m') (role : Role) :
    Option.Rel (Counterparts root root') (m.part? role) (m'.part? role) := by
  have hpart := (hroot.of_counterparts h).part?_rel role
  cases hc : m.part? role with
  | none =>
    cases hc' : m'.part? role with
    | none => exact .none
    | some c' =>
      rw [hc, hc'] at hpart
      cases hpart
  | some c =>
    cases hc' : m'.part? role with
    | none =>
      rw [hc, hc'] at hpart
      cases hpart
    | some c' => exact .some (.part role h hc hc')

mutual

/-- Counterparts have counterparts below them. -/
theorem preorder_counterparts (hroot : Reformatted f root root') : (m m' : Node) →
    Counterparts root root' m m' →
      List.Forall₂ (Counterparts root root') m.preorder m'.preorder
  | mk kind loc text children detail, m', h => by
    rw [preorder_eq m', preorder]
    exact .cons h (preorders_counterparts hroot children m'.children (h.children hroot))

/-- Counterparts are met together in the preorders of two lists. -/
theorem preorders_counterparts (hroot : Reformatted f root root') : (ms ms' : List Node) →
    List.Forall₂ (Counterparts root root') ms ms' →
      List.Forall₂ (Counterparts root root') (preorders ms) (preorders ms')
  | [], _, .nil => .nil
  | m :: ms, m' :: ms', .cons h hs =>
    List.rel_append (preorder_counterparts hroot m m' h) (preorders_counterparts hroot ms ms' hs)

end

/-- Walks from counterparts meet counterparts. -/
lemma Counterparts.walk {m m' : Node} (hroot : Reformatted f root root')
    (h : Counterparts root root' m m') :
    List.Forall₂ (Counterparts root root') m.walk m'.walk := by
  rw [walk_eq_preorder, walk_eq_preorder]
  exact preorder_counterparts hroot m m' h

/-- What a part has below it, if there is the part. -/
lemma walkPart_counterparts {part part' : Option Node} (hroot : Reformatted f root root')
    (h : Option.Rel (Counterparts root root') part part') :
    List.Forall₂ (Counterparts root root') (walkPart part) (walkPart part') := by
  cases h with
  | none => exact .nil
  | some hbody => exact hbody.walk hroot

end Walk

/-! ### What a detector asks a node -/

section Views

variable {f : Int → Int} {n n' : Node}

/-- Calls are read off the attributes. -/
lemma call?_eq (n : Node) :
    n.call? =
      match n.detail.attributes with
      | .call callee isMember => some (callee, isMember)
      | _ => none := by
  unfold call?
  cases n.detail <;> rfl

/-- Members are read off the attributes. -/
lemma member?_eq (n : Node) :
    n.member? =
      match n.detail.attributes with
      | .member name => some name
      | _ => none := by
  unfold member?
  cases n.detail <;> rfl

/-- Functions are read off the attributes and the body. -/
lemma function?_eq (n : Node) :
    n.function? =
      match n.detail.attributes with
      | .function name visibility mutability isConstructor _ =>
        some ⟨name, visibility, mutability, isConstructor, n.part? .body⟩
      | _ => none := by
  unfold function? part?
  cases n.detail <;> rfl

/-- Conditions are read off the attributes and what plays the role. -/
lemma condition?_eq (n : Node) :
    n.condition? =
      match n.detail.attributes with
      | .conditional _ => some (n.part? .condition)
      | .loop _ _ => some (n.part? .condition)
      | _ => none := by
  unfold condition? part?
  cases n.detail <;> rfl

/-- Bodies of loops are read off the attributes and what plays the role. -/
lemma loopBody?_eq (n : Node) :
    n.loopBody? =
      match n.detail.attributes with
      | .loop _ _ => some (n.part? .body)
      | _ => none := by
  unfold loopBody? part?
  cases n.detail <;> rfl

/-- Operations are read off the attributes and the operands. -/
lemma binary?_eq (n : Node) :
    n.binary? =
      match n.detail.attributes with
      | .binary operator _ _ => some (operator, n.part? .left, n.part? .right)
      | _ => none := by
  unfold binary? part?
  cases n.detail <;> rfl

namespace Reformatted

/-- Calls do not depend on the format. -/
lemma call?_eq (h : Reformatted f n n') : n'.call? = n.call? := by
  rw [Node.call?_eq, Node.call?_eq, h.attributes_eq]

/-- Members do not depend on the format. -/
lemma member?_eq (h : Reformatted f n n') : n'.member? = n.member? := by
  rw [Node.member?_eq, Node.member?_eq, h.attributes_eq]

/-- Either neither node is a function, or both are one that differs in its body. -/
lemma function?_cases (h : Reformatted f n n') :
    n.function? = none ∧ n'.function? = none ∨
      ∃ v : FunctionView, n.function? = some { v with body := n.part? .body } ∧
        n'.function? = some { v with body := n'.part? .body } := by
  rw [function?_eq, function?_eq, h.attributes_eq]
  cases n.detail.attributes with
  | function name visibility mutability isConstructor body =>
    exact .inr ⟨⟨name, visibility, mutability, isConstructor, none⟩, rfl, rfl⟩
  | _ => exact .inl ⟨rfl, rfl⟩

/-- Either neither node can have a condition, or both can. -/
lemma condition?_cases (h : Reformatted f n n') :
    n.condition? = none ∧ n'.condition? = none ∨
      n.condition? = some (n.part? .condition) ∧ n'.condition? = some (n'.part? .condition) := by
  rw [condition?_eq, condition?_eq, h.attributes_eq]
  cases n.detail.attributes with
  | conditional condition => exact .inr ⟨rfl, rfl⟩
  | loop condition body => exact .inr ⟨rfl, rfl⟩
  | _ => exact .inl ⟨rfl, rfl⟩

/-- Either neither node is a loop, or both are. -/
lemma loopBody?_cases (h : Reformatted f n n') :
    n.loopBody? = none ∧ n'.loopBody? = none ∨
      n.loopBody? = some (n.part? .body) ∧ n'.loopBody? = some (n'.part? .body) := by
  rw [loopBody?_eq, loopBody?_eq, h.attributes_eq]
  cases n.detail.attributes with
  | loop condition body => exact .inr ⟨rfl, rfl⟩
  | _ => exact .inl ⟨rfl, rfl⟩

/-- Either neither node is a binary operation, or both are one with the same operator. -/
lemma binary?_cases (h : Reformatted f n n') :
    n.binary? = none ∧ n'.binary? = none ∨
      ∃ operator, n.binary? = some (operator, n.part? .left, n.part? .right) ∧
        n'.binary? = some (operator, n'.part? .left, n'.part? .right) := by
  rw [binary?_eq, binary?_eq, h.attributes_eq]
  cases n.detail.attributes with
  | binary operator left right => exact .inr ⟨operator, rfl, rfl⟩
  | _ => exact .inl ⟨rfl, rfl⟩

/-- A tree is serialised alike in both formats. -/
lemma serialize_eq (h : Reformatted f n n') : n'.serialize = n.serialize := by
  rw [serialize_eq_form, serialize_eq_form, form_eq_of_reformatted n n' h]

end Reformatted

end Views

end Node

end ContractAudit
