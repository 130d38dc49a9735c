import ContractAudit.Proofs.Building
import ContractAudit.Proofs.Tables

/-!
# Fields of concrete nodes

A field names a child of a concrete node, and the typed node wants what this child became. The child
is found again by its span and type among the children that are kept, and of several that agree the
last one counts. So a field gives what the last kept child like it became; and if no two children
agree, that is the child itself. The main statement is `fieldNode?_children`.
-/

namespace ContractAudit

/-! ## The last element with a property -/

/-- The last place in a mapped list is that of the property before the map. -/
lemma lastIndex?_map {α β : Type} (f : α → β) (p : β → Bool) (xs : List α) :
    lastIndex? p (xs.map f) = lastIndex? (fun x => p (f x)) xs := by
  simp only [lastIndex?, ← List.map_reverse, List.findIdx?_map, List.length_map]
  rfl

/-- The last position with a property is that of the last element that has it. -/
lemma getElem?_lastIndex? {α : Type} (p : α → Bool) (xs : List α) :
    ((lastIndex? p xs).bind fun i => xs[i]?) = (xs.filter p).getLast? := by
  rw [List.getLast?_filter, List.find?_eq_bind_findIdx?_getElem?, lastIndex?]
  cases hindex : xs.reverse.findIdx? p with
  | none => rfl
  | some i =>
    have hlt : i < xs.length := by
      rw [← List.length_reverse]
      exact (List.findIdx?_eq_some_iff_getElem.1 hindex).1
    exact (List.getElem?_reverse hlt).symm

/-! ## Finished children -/

/-- What a concrete node becomes, if it becomes anything. -/
def converted (bytes : List UInt8) (t : ParseTree) : Option Node :=
  (build bytes t).toOption

/-- Finished children have the tags of the concrete nodes from which they are made. -/
lemma map_buildAll {bytes : List UInt8} {ts : List ParseTree} {parts : List (Tag × Node)}
    (h : buildAll bytes ts = .ok parts) :
    parts.map (fun part => (part.1, some part.2)) =
      ts.map fun t => (t.tag, converted bytes t) := by
  have hall := forall₂_buildAll h
  clear h
  induction hall with
  | nil => rfl
  | cons hfirst _ ih =>
    obtain ⟨htag, hbuild⟩ := hfirst
    rw [List.map_cons, List.map_cons, ih, htag, converted, hbuild]
    rfl

/-- Among finished children, the last one whose tag has a property is made from the last concrete
node whose tag has it. -/
lemma getLast?_filter_parts {bytes : List UInt8} {ts : List ParseTree} {parts : List (Tag × Node)}
    (h : buildAll bytes ts = .ok parts) (p : Tag → Bool) :
    ((parts.filter fun part => p part.1).getLast?.map Prod.snd) =
      (ts.filter fun t => p t.tag).getLast?.bind (converted bytes) := by
  -- the two lists agree row by row, so they agree after the filter and at the end
  have hfilter : (parts.filter fun part => p part.1).map (fun part => (part.1, some part.2)) =
      (ts.filter fun t => p t.tag).map fun t => (t.tag, converted bytes t) := by
    have hrows := congrArg (List.filter fun row => p row.1) (map_buildAll h)
    rw [List.filter_map, List.filter_map] at hrows
    exact hrows
  have hlast := congrArg (fun rows => rows.getLast?.bind Prod.snd) hfilter
  simp only [List.getLast?_map, Option.bind_map] at hlast
  rw [Option.map_eq_bind]
  exact hlast

/-! ## Fields -/

/-- The typed node that a field gives among the finished children. -/
def fieldNode? (t : ParseTree) (parts : List (Tag × Node)) (field : String) : Option Node :=
  (fieldIndex? t (parts.map Prod.fst) field).bind fun i => (parts.map Prod.snd)[i]?

/-- The last kept child that has the span and the type of another child. -/
def ParseTree.lastLike? (t first : ParseTree) : Option ParseTree :=
  (t.kept.filter fun c => c.tag.key == first.tag.key).getLast?

/-- A field gives what the last kept child like it became. -/
lemma fieldNode?_eq {bytes : List UInt8} {t : ParseTree} {parts : List (Tag × Node)}
    (h : buildAll bytes t.kept = .ok parts) (field : String) :
    fieldNode? t parts field =
      (t.childByField? field).bind fun first => (t.lastLike? first).bind (converted bytes) := by
  rw [fieldNode?, fieldIndex?_eq]
  cases t.childByField? field with
  | none => rfl
  | some first =>
    calc
      (lastIndex? (fun c => c.key == first.tag.key) (parts.map Prod.fst)).bind
          (fun i => (parts.map Prod.snd)[i]?)
      _ = ((lastIndex? (fun part => part.1.key == first.tag.key) parts).bind fun i =>
            parts[i]?).map Prod.snd := by
        simp only [lastIndex?_map, List.getElem?_map, Option.map_bind, Function.comp_def]
      _ = (parts.filter fun part => part.1.key == first.tag.key).getLast?.map Prod.snd := by
        rw [getElem?_lastIndex?]
      _ = (t.lastLike? first).bind (converted bytes) :=
        getLast?_filter_parts h fun tag => tag.key == first.tag.key

/-- If no two children agree in span and type, a child that is not kept has no kept child like it,
and a kept child has itself. -/
lemma ParseTree.lastLike?_of_nodup {t first : ParseTree}
    (h : (t.children.map fun c => c.tag.key).Nodup) (hfirst : first ∈ t.children) :
    t.lastLike? first = if first.isKept then some first else none := by
  -- the filter for kept children and the one for the key can be swapped
  have halike : t.children.filter (fun c => c.tag.key == first.tag.key) = [first] := by
    have hfind := filter_eq_toList_find? h first.tag.key
    have hmem : first ∈ t.children.filter fun c => c.tag.key == first.tag.key :=
      List.mem_filter.2 ⟨hfirst, beq_self_eq_true _⟩
    rw [hfind] at hmem ⊢
    rw [Option.mem_toList.1 hmem]
    rfl
  have hkept : t.kept.filter (fun c => c.tag.key == first.tag.key) = [first].filter isKept := by
    rw [← halike, kept, List.filter_filter, List.filter_filter]
    simp only [Bool.and_comm]
  rw [lastLike?, hkept]
  cases hself : first.isKept with
  | true => simp [hself]
  | false => simp [hself]

/-- What a typed node reads at a position among its children: a name is the text of the child there,
a body is the child, and a condition or an operand is what the child wraps. -/
structure Node.Reads (n : Node) (position : Option Nat) (found : Option Node) : Prop where
  name : textAt? n.children position = found.map Node.text
  body : n.resolve? (position.map childReference) = found
  operand : n.resolve? (position.map (unwrappedReference n.children)) = found.map Node.unwrap

/-- What is at a place is read there. -/
lemma Node.reads_getElem? (n : Node) (position : Option Nat) :
    n.Reads position (position.bind fun i => n.children[i]?) := by
  cases position with
  | none => exact ⟨rfl, rfl, rfl⟩
  | some i =>
    cases hchild : n.children[i]? with
    | none => constructor <;> simp [textAt?, hchild, resolve?, resolve, descend, childReference,
        unwrappedReference]
    | some child =>
      constructor <;> simp [textAt?, hchild, resolve?, resolve, descend, childReference,
        unwrappedReference, descend_unwrapPath]

/-- A typed node is made from its finished children, and every kept child is among them. A field
gives what the last kept child became that has the span and the type of the first child with this
field; if no two children agree in span and type, it gives what that first child became, and nothing
if the child is not kept. Names, bodies and operands of the typed node are read from there. -/
theorem fieldNode?_children {bytes : List UInt8} {t : ParseTree} {parts : List (Tag × Node)}
    (h : buildKept bytes t.children = .ok parts) (field : String) :
    build bytes t = assemble bytes t parts ∧ (∀ c ∈ t.kept, ∃ n, build bytes c = .ok n) ∧
    fieldNode? t parts field =
      ((t.childByField? field).bind fun first => (t.lastLike? first).bind (converted bytes)) ∧
    ((t.children.map fun c => c.tag.key).Nodup → fieldNode? t parts field =
      (t.childByField? field).bind fun first =>
        if first.isKept then converted bytes first else none) ∧
    ∀ n : Node, n.children = parts.map Prod.snd →
      n.Reads (fieldIndex? t (parts.map Prod.fst) field) (fieldNode? t parts field) := by
  rw [buildKept_eq] at h
  have hlast := fieldNode?_eq h field
  refine ⟨?_, ?_, hlast, ?_, ?_⟩
  · rw [build_eq, ParseTree.kept, h]
  · intro c hc
    obtain ⟨part, -, -, hbuild⟩ := exists_mem_of_forall₂ (forall₂_buildAll h) hc
    exact ⟨part.2, hbuild⟩
  · intro hkeys
    rw [hlast]
    cases hfirst : t.childByField? field with
    | none => rfl
    | some first =>
      rw [Option.bind_some, Option.bind_some,
        ParseTree.lastLike?_of_nodup hkeys (List.mem_of_find?_eq_some hfirst)]
      cases first.isKept <;> rfl
  · intro n hn
    rw [fieldNode?, ← hn]
    exact n.reads_getElem? _

/-- A condition that is wrapped around a leaf of a type. -/
def wrappedCondition (type : String) (field : Option String) : ParseTree :=
  .mk ⟨"expression", 3, 4, true, false, false, field⟩
    [.mk ⟨type, 3, 4, true, false, false, none⟩ []]

/-- An `if` with the field `condition` on an expression and the field `body` on a comment, and with
more children at the end. -/
def ifWithFields (more : List ParseTree) : ParseTree :=
  .mk ⟨"if_statement", 0, 9, true, false, false, none⟩
    ([.mk ⟨"if", 0, 2, false, false, false, none⟩ [],
      wrappedCondition "identifier" (some "condition"),
      .mk ⟨"comment", 5, 9, true, false, false, some "body"⟩ []] ++ more)

/-- The condition is the expression with the field, until another expression at the same place comes
after it; the comment is no body. -/
theorem fieldNode?_children_ifWithFields :
    (∃ parts, buildKept [] (ifWithFields []).children = .ok parts ∧
      ((ifWithFields []).children.map fun c => c.tag.key).Nodup ∧
      (fieldNode? (ifWithFields []) parts "condition").map (fun n => n.children.map Node.kind) =
        some [Kind.identifier] ∧
      (fieldNode? (ifWithFields []) parts "body").isNone) ∧
    ∃ parts,
      buildKept [] (ifWithFields [wrappedCondition "number_literal" none]).children = .ok parts ∧
      (fieldNode? (ifWithFields [wrappedCondition "number_literal" none]) parts "condition").map
        (fun n => n.children.map Node.kind) = some ["number_literal"] := by
  have hkeys : ((ifWithFields []).children.map fun c => c.tag.key).Nodup := by decide
  constructor
  · obtain ⟨parts, hparts⟩ : ∃ parts, buildKept [] (ifWithFields []).children = .ok parts :=
      ⟨_, rfl⟩
    obtain ⟨-, -, -, hcondition, -⟩ := fieldNode?_children hparts "condition"
    obtain ⟨-, -, -, hbody, -⟩ := fieldNode?_children hparts "body"
    refine ⟨parts, hparts, hkeys, ?_, ?_⟩
    · rw [hcondition hkeys]
      decide +kernel
    · rw [hbody hkeys]
      decide +kernel
  · obtain ⟨parts, hparts⟩ : ∃ parts, buildKept []
        (ifWithFields [wrappedCondition "number_literal" none]).children = .ok parts :=
      ⟨_, rfl⟩
    obtain ⟨-, -, hcondition, -⟩ := fieldNode?_children hparts "condition"
    refine ⟨parts, hparts, ?_⟩
    rw [hcondition]
    decide +kernel

end ContractAudit
