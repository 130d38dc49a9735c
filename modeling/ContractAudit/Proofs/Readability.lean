import ContractAudit.Proofs.Traversal
import Mathlib.Data.List.Forall2

/-!
# Reading serialized trees

The form of a tree is a word of a language of brackets. It says of every node which kind it has and
how many children, and of every leaf which text it has up to blanks. Trees that agree in this have
the same form (`Node.serialize_eq_of_alike`). The converse needs that kinds end where a bracket
opens and texts where a parenthesis closes: then a form, followed by anything, can be read in one
way only (`Node.alike_of_form_append`), and trees with the same form are alike
(`Node.alike_of_serialize_eq`). So a form without stray marks can be read back
(`Node.serialize_eq_iff_sameShape`).

What a node carries besides, such as an operator, is not a part of the form.
-/

namespace ContractAudit

/-! ## Where words end -/

/-- Whether a character opens a bracket. -/
def isOpening (c : Char) : Bool :=
  c == '(' || c == '['

/-- Whether a character closes the text of a leaf. -/
def isClosing (c : Char) : Bool :=
  c == ')'

/-- A word without certain characters ends at the first of them. -/
lemma append_cons_inj_of_any {p : Char → Bool} {xs ys rest rest' : List Char} {d d' : Char}
    (hxs : xs.any p = false) (hys : ys.any p = false) (hd : p d = true) (hd' : p d' = true)
    (h : xs ++ d :: rest = ys ++ d' :: rest') : xs = ys ∧ d = d' ∧ rest = rest' := by
  induction xs generalizing ys with
  | nil =>
    cases ys with
    | nil => exact ⟨rfl, List.cons.inj h⟩
    | cons y ys =>
      obtain ⟨rfl, -⟩ := List.cons.inj h
      simp [hd] at hys
  | cons x xs ih =>
    simp only [List.any_cons, Bool.or_eq_false_iff] at hxs
    cases ys with
    | nil =>
      obtain ⟨rfl, -⟩ := List.cons.inj h
      simp [hd'] at hxs
    | cons y ys =>
      simp only [List.any_cons, Bool.or_eq_false_iff] at hys
      obtain ⟨rfl, htail⟩ := List.cons.inj h
      obtain ⟨rfl, hrest⟩ := ih hxs.2 hys.2 htail
      exact ⟨rfl, hrest⟩

/-- The words of a text are made of its characters. -/
lemma mem_of_mem_wordsOf {c : Char} {cs w : List Char} (hw : w ∈ wordsOf cs) (hc : c ∈ w) :
    c ∈ cs := by
  fun_induction wordsOf cs generalizing w with
  | case1 => cases hw
  | case2 b cs _ ih => exact List.mem_cons_of_mem _ (ih hw hc)
  | case3 b _ =>
    obtain rfl := List.mem_singleton.1 hw
    exact hc
  | case4 b _ d cs _ ih =>
    rcases List.mem_cons.1 hw with rfl | hw
    · exact List.mem_cons.2 (.inl (List.mem_singleton.1 hc))
    · exact List.mem_cons_of_mem _ (ih hw hc)
  | case5 b _ d cs _ hwords ih =>
    simp only [hwords] at hw
    obtain rfl := List.mem_singleton.1 hw
    exact List.mem_cons.2 (.inl (List.mem_singleton.1 hc))
  | case6 b _ d cs _ v vs hwords ih =>
    simp only [hwords] at hw ih
    rcases List.mem_cons.1 hw with rfl | hw
    · rcases List.mem_cons.1 hc with rfl | hc
      · exact List.mem_cons_self
      · exact List.mem_cons_of_mem _ (ih List.mem_cons_self hc)
    · exact List.mem_cons_of_mem _ (ih (List.mem_cons_of_mem _ hw) hc)

/-- The characters of joined words come from the words or from between them. -/
lemma mem_intercalate {c : Char} {sep : List Char} {ws : List (List Char)}
    (h : c ∈ sep.intercalate ws) : c ∈ sep ∨ ∃ w ∈ ws, c ∈ w := by
  induction ws with
  | nil => cases h
  | cons w ws ih =>
    cases ws with
    | nil =>
      rw [List.intercalate_singleton] at h
      exact .inr ⟨w, List.mem_cons_self, h⟩
    | cons w' ws =>
      rw [List.intercalate_cons_cons, List.mem_append, List.mem_append] at h
      rcases h with (h | h) | h
      · exact .inr ⟨w, List.mem_cons_self, h⟩
      · exact .inl h
      · rcases ih h with hsep | ⟨v, hv, hc⟩
        · exact .inl hsep
        · exact .inr ⟨v, List.mem_cons_of_mem _ hv, hc⟩

/-- Normalising blanks brings no closing parenthesis in. -/
lemma any_isClosing_normalizeBlanks {s : String} (h : s.toList.any isClosing = false) :
    (normalizeBlanks s).toList.any isClosing = false := by
  rw [List.any_eq_false] at h ⊢
  intro c hc
  rw [normalizeBlanks, String.toList_ofList] at hc
  rcases mem_intercalate hc with hc | ⟨w, hw, hc⟩
  · obtain rfl := List.mem_singleton.1 hc
    decide
  · exact h c (mem_of_mem_wordsOf hw hc)

namespace Node

/-! ## Trees that are alike -/

/-- Two nodes have the same kind and as many children, and leaves have the same text up to blanks.
-/
structure Matches (n m : Node) : Prop where
  kind : n.kind = m.kind
  arity : n.children.length = m.children.length
  text : n.children.isEmpty = true → normalizeBlanks n.text = normalizeBlanks m.text

/-- Two trees, walked in parallel, have nodes that match. -/
def Alike (n m : Node) : Prop :=
  List.Forall₂ Matches n.preorder m.preorder

/-- No kind has an opening bracket, and no text of a leaf has a closing parenthesis. -/
def Readable (n : Node) : Prop :=
  ∀ m ∈ n.preorder, m.kind.toList.any isOpening = false ∧
    (m.children.isEmpty = true → m.text.toList.any isClosing = false)

instance (n : Node) : Decidable n.Readable :=
  inferInstanceAs (Decidable (∀ m ∈ n.preorder, _))

/-- The forms of several trees with a comma before each. -/
def commaForms : List Node → List Char
  | [] => []
  | n :: more => ',' :: n.form.toList ++ commaForms more

/-- The forms of several trees, with commas between them. -/
lemma toList_forms_cons (n : Node) (more : List Node) :
    (forms (n :: more)).toList = n.form.toList ++ commaForms more := by
  induction more generalizing n with
  | nil => simp [forms, commaForms]
  | cons m more ih => simp [forms, commaForms, ih]

/-- The form of a leaf. -/
lemma toList_form_leaf (kind : String) (loc : Location) (text : String) (detail : Detail Node) :
    (mk kind loc text [] detail).form.toList =
      kind.toList ++ '(' :: ((normalizeBlanks text).toList ++ [')']) := by
  simp [form, leafForm, Node.kind, Node.text]

/-- The form of a node with children. -/
lemma toList_form_inner (kind : String) (loc : Location) (text : String) (child : Node)
    (more : List Node) (detail : Detail Node) :
    (mk kind loc text (child :: more) detail).form.toList =
      kind.toList ++ '[' :: (child.form.toList ++ (commaForms more ++ [']'])) := by
  simp [form, toList_forms_cons]

/-! ## Trees that are alike have the same form -/

mutual

/-- Trees that match, and what follows matches too, have the same form. -/
theorem form_eq_of_matches : (n m : Node) → ∀ {u v},
    List.Forall₂ Matches (n.preorder ++ u) (m.preorder ++ v) →
      n.form.toList = m.form.toList ∧ List.Forall₂ Matches u v
  | mk kind loc text [] detail, mk kind' loc' text' [] detail', u, v, h => by
    obtain ⟨⟨hkind, -, htext⟩, hrest⟩ := List.forall₂_cons.1 h
    obtain rfl : kind = kind' := hkind
    have htext' : normalizeBlanks text = normalizeBlanks text' := htext rfl
    rw [toList_form_leaf, toList_form_leaf, htext']
    exact ⟨rfl, hrest⟩
  | mk _ _ _ [] _, mk _ _ _ (_ :: _) _, u, v, h => by
    cases (List.forall₂_cons.1 h).1.arity
  | mk _ _ _ (_ :: _) _, mk _ _ _ [] _, u, v, h => by
    cases (List.forall₂_cons.1 h).1.arity
  | mk kind loc text (child :: more) detail, mk kind' loc' text' (child' :: more') detail',
      u, v, h => by
    obtain ⟨⟨hkind, harity, -⟩, hbelow⟩ := List.forall₂_cons.1 h
    obtain rfl : kind = kind' := hkind
    change List.Forall₂ Matches ((child.preorder ++ preorders more) ++ u)
      ((child'.preorder ++ preorders more') ++ v) at hbelow
    rw [List.append_assoc, List.append_assoc] at hbelow
    obtain ⟨hform, hmore⟩ := form_eq_of_matches child child' hbelow
    obtain ⟨hforms, hrest⟩ := commaForms_eq_of_matches more more' (Nat.succ.inj harity) hmore
    rw [toList_form_inner, toList_form_inner, hform, hforms]
    exact ⟨rfl, hrest⟩

/-- Lists of trees whose nodes match have the same forms. -/
theorem commaForms_eq_of_matches : (ns ms : List Node) → ∀ {u v}, ns.length = ms.length →
    List.Forall₂ Matches (preorders ns ++ u) (preorders ms ++ v) →
      commaForms ns = commaForms ms ∧ List.Forall₂ Matches u v
  | [], [], u, v, _, h => ⟨rfl, h⟩
  | n :: ns, m :: ms, u, v, hlength, h => by
    rw [preorders, preorders, List.append_assoc, List.append_assoc] at h
    obtain ⟨hform, hmore⟩ := form_eq_of_matches n m h
    obtain ⟨hforms, hrest⟩ := commaForms_eq_of_matches ns ms (Nat.succ.inj hlength) hmore
    rw [commaForms, commaForms, hform, hforms]
    exact ⟨rfl, hrest⟩

end

/-- Trees that are alike have the same form. -/
lemma serialize_eq_of_alike {n m : Node} (h : n.Alike m) : n.serialize = m.serialize := by
  have hform : List.Forall₂ Matches (n.preorder ++ []) (m.preorder ++ []) := by
    rw [List.append_nil, List.append_nil]
    exact h
  rw [serialize_eq_form, serialize_eq_form]
  exact String.toList_inj.1 (form_eq_of_matches n m hform).1

/-! ## Forms can be read in one way only -/

namespace Readable

variable {n : Node}

/-- The children of a readable tree are readable. -/
lemma of_mem_children {c : Node} (h : n.Readable) (hc : c ∈ n.children) : c.Readable :=
  fun m hm => h m
    (preorder_subset n (mem_preorder_of_mem_children n.mem_preorder_self hc) hm)

/-- The kind of a readable tree ends where a bracket opens. -/
lemma kind (h : n.Readable) : n.kind.toList.any isOpening = false :=
  (h n n.mem_preorder_self).1

/-- The text of a readable leaf ends where the parenthesis closes. -/
lemma text (h : n.Readable) (hleaf : n.children.isEmpty = true) :
    (normalizeBlanks n.text).toList.any isClosing = false :=
  any_isClosing_normalizeBlanks ((h n n.mem_preorder_self).2 hleaf)

end Readable

mutual

/-- A form that is followed by something can be read in one way only. -/
theorem alike_of_form_append : (n m : Node) → ∀ {u v}, n.Readable → m.Readable →
    n.form.toList ++ u = m.form.toList ++ v → n.Alike m ∧ u = v
  | mk kind loc text [] detail, mk kind' loc' text' [] detail', u, v, hn, hm, h => by
    simp only [toList_form_leaf, List.append_assoc, List.cons_append] at h
    obtain ⟨hkind, -, h⟩ :=
      append_cons_inj_of_any (Readable.kind hn) (Readable.kind hm) rfl rfl h
    obtain ⟨htext, -, h⟩ :=
      append_cons_inj_of_any (Readable.text hn rfl) (Readable.text hm rfl) rfl rfl h
    have hmatches : Matches (mk kind loc text [] detail) (mk kind' loc' text' [] detail') :=
      ⟨String.toList_inj.1 hkind, rfl, fun _ => String.toList_inj.1 htext⟩
    exact ⟨.cons hmatches .nil, h⟩
  | mk kind loc text [] detail, mk kind' loc' text' (child' :: more') detail', u, v, hn, hm, h => by
    simp only [toList_form_leaf, toList_form_inner, List.append_assoc, List.cons_append] at h
    obtain ⟨-, hbracket, -⟩ :=
      append_cons_inj_of_any (Readable.kind hn) (Readable.kind hm) rfl rfl h
    exact absurd hbracket (by decide)
  | mk kind loc text (child :: more) detail, mk kind' loc' text' [] detail', u, v, hn, hm, h => by
    simp only [toList_form_leaf, toList_form_inner, List.append_assoc, List.cons_append] at h
    obtain ⟨-, hbracket, -⟩ :=
      append_cons_inj_of_any (Readable.kind hn) (Readable.kind hm) rfl rfl h
    exact absurd hbracket (by decide)
  | mk kind loc text (child :: more) detail, mk kind' loc' text' (child' :: more') detail',
      u, v, hn, hm, h => by
    have hchildren : ∀ c ∈ child :: more, c.Readable := fun c hc => hn.of_mem_children hc
    have hchildren' : ∀ c ∈ child' :: more', c.Readable := fun c hc => hm.of_mem_children hc
    simp only [toList_form_inner, List.append_assoc, List.cons_append, List.nil_append] at h
    obtain ⟨hkind, -, h⟩ :=
      append_cons_inj_of_any (Readable.kind hn) (Readable.kind hm) rfl rfl h
    obtain ⟨hchild, h⟩ := alike_of_form_append child child' (hchildren child List.mem_cons_self)
      (hchildren' child' List.mem_cons_self) h
    obtain ⟨hlength, hmore, h⟩ := alike_of_commaForms_append more more'
      (fun c hc => hchildren c (List.mem_cons_of_mem _ hc))
      (fun c hc => hchildren' c (List.mem_cons_of_mem _ hc)) h
    have hmatches : Matches (mk kind loc text (child :: more) detail)
        (mk kind' loc' text' (child' :: more') detail') :=
      ⟨String.toList_inj.1 hkind, congrArg Nat.succ hlength, fun hleaf => by cases hleaf⟩
    exact ⟨.cons hmatches (List.rel_append hchild hmore), h⟩

/-- The forms of several trees, up to a closing bracket, can be read in one way only. -/
theorem alike_of_commaForms_append : (ns ms : List Node) → ∀ {u v},
    (∀ n ∈ ns, n.Readable) → (∀ m ∈ ms, m.Readable) →
    commaForms ns ++ ']' :: u = commaForms ms ++ ']' :: v →
      ns.length = ms.length ∧ List.Forall₂ Matches (preorders ns) (preorders ms) ∧ u = v
  | [], [], u, v, _, _, h => ⟨rfl, .nil, (List.cons.inj h).2⟩
  | [], m :: ms, u, v, _, _, h => absurd (List.cons.inj h).1 (by decide)
  | n :: ns, [], u, v, _, _, h => absurd (List.cons.inj h).1 (by decide)
  | n :: ns, m :: ms, u, v, hns, hms, h => by
    simp only [commaForms, List.cons_append, List.append_assoc] at h
    obtain ⟨hfirst, h⟩ := alike_of_form_append n m (hns n List.mem_cons_self)
      (hms m List.mem_cons_self) (List.cons.inj h).2
    obtain ⟨hlength, hrest, h⟩ := alike_of_commaForms_append ns ms
      (fun c hc => hns c (List.mem_cons_of_mem _ hc))
      (fun c hc => hms c (List.mem_cons_of_mem _ hc)) h
    exact ⟨congrArg Nat.succ hlength, List.rel_append hfirst hrest, h⟩

end

/-- Readable trees are alike if they have the same form. -/
lemma alike_of_serialize_eq {n m : Node} (hn : n.Readable) (hm : m.Readable)
    (h : n.serialize = m.serialize) : n.Alike m := by
  rw [serialize_eq_form, serialize_eq_form] at h
  have hform : n.form.toList ++ [] = m.form.toList ++ [] := by rw [h]
  exact (alike_of_form_append n m hn hm hform).1

/-! ## Shapes -/

/-- Two trees have the same shape, the same kinds at all nodes, and the same texts up to blanks at
all leaves. -/
inductive SameShape : Node → Node → Prop
  | node {n m : Node} (kind : n.kind = m.kind)
      (text : n.children = [] → normalizeBlanks n.text = normalizeBlanks m.text)
      (children : List.Forall₂ SameShape n.children m.children) : SameShape n m

mutual

/-- The nodes in their order, with the numbers of their children, tell the shape. -/
theorem sameShape_of_matches : (n m : Node) → ∀ {u v},
    List.Forall₂ Matches (n.preorder ++ u) (m.preorder ++ v) →
      n.SameShape m ∧ List.Forall₂ Matches u v
  | mk kind loc text children detail, mk kind' loc' text' children' detail', u, v, h => by
    obtain ⟨⟨hkind, harity, htext⟩, hbelow⟩ := List.forall₂_cons.1 h
    obtain ⟨hchildren, hrest⟩ := sameShapes_of_matches children children' harity hbelow
    exact ⟨.node hkind (fun hleaf => htext (List.isEmpty_iff.2 hleaf)) hchildren, hrest⟩

/-- Lists of trees whose nodes match have the same shapes. -/
theorem sameShapes_of_matches : (ns ms : List Node) → ∀ {u v}, ns.length = ms.length →
    List.Forall₂ Matches (preorders ns ++ u) (preorders ms ++ v) →
      List.Forall₂ SameShape ns ms ∧ List.Forall₂ Matches u v
  | [], [], u, v, _, h => ⟨.nil, h⟩
  | n :: ns, m :: ms, u, v, hlength, h => by
    rw [preorders, preorders, List.append_assoc, List.append_assoc] at h
    obtain ⟨hfirst, hmore⟩ := sameShape_of_matches n m h
    obtain ⟨hothers, hrest⟩ := sameShapes_of_matches ns ms (Nat.succ.inj hlength) hmore
    exact ⟨.cons hfirst hothers, hrest⟩

end

mutual

/-- Trees of the same shape have nodes that match. -/
theorem alike_of_sameShape : (n m : Node) → n.SameShape m → n.Alike m
  | mk kind loc text children detail, mk kind' loc' text' children' detail', h => by
    cases h with
    | node hkind htext hchildren =>
      have hmatches : Matches (mk kind loc text children detail)
          (mk kind' loc' text' children' detail') :=
        ⟨hkind, hchildren.length_eq, fun hleaf => htext (List.isEmpty_iff.1 hleaf)⟩
      exact .cons hmatches (alike_of_sameShapes children children' hchildren)

/-- Lists of trees of the same shapes have nodes that match. -/
theorem alike_of_sameShapes : (ns ms : List Node) → List.Forall₂ SameShape ns ms →
    List.Forall₂ Matches (preorders ns) (preorders ms)
  | [], [], _ => .nil
  | n :: ns, m :: ms, h => by
    obtain ⟨hfirst, hothers⟩ := List.forall₂_cons.1 h
    exact List.rel_append (alike_of_sameShape n m hfirst) (alike_of_sameShapes ns ms hothers)

end

/-- Two trees have the same shape exactly if they are alike. -/
lemma sameShape_iff_alike {n m : Node} : n.SameShape m ↔ n.Alike m := by
  refine ⟨alike_of_sameShape n m, fun h => ?_⟩
  have hmatches : List.Forall₂ Matches (n.preorder ++ []) (m.preorder ++ []) := by
    rw [List.append_nil, List.append_nil]
    exact h
  exact (sameShape_of_matches n m hmatches).1

/-- Whether a character has a meaning in forms. -/
def isMark (c : Char) : Bool :=
  c == '(' || c == ')' || c == '[' || c == ']' || c == ','

/-- No kind and no text of a leaf has a mark. -/
def Unmarked (n : Node) : Prop :=
  ∀ m ∈ n.preorder, m.kind.toList.any isMark = false ∧
    (m.children = [] → m.text.toList.any isMark = false)

instance (n : Node) : Decidable n.Unmarked :=
  inferInstanceAs (Decidable (∀ m ∈ n.preorder, _))

/-- A word without marks has no marks of one sort. -/
lemma any_eq_false_of_any_isMark {p : Char → Bool} (hp : ∀ c, p c = true → isMark c = true)
    {cs : List Char} (h : cs.any isMark = false) : cs.any p = false := by
  rw [List.any_eq_false] at h ⊢
  intro c hc hpc
  exact h c hc (hp c hpc)

/-- A tree without marks is readable. -/
lemma Unmarked.readable {n : Node} (h : n.Unmarked) : n.Readable := by
  intro m hm
  obtain ⟨hkind, htext⟩ := h m hm
  constructor
  · apply any_eq_false_of_any_isMark _ hkind
    intro c hc
    simp only [isOpening, isMark, Bool.or_eq_true] at hc ⊢
    tauto
  · intro hleaf
    apply any_eq_false_of_any_isMark _ (htext (List.isEmpty_iff.1 hleaf))
    intro c hc
    simp only [isClosing, isMark, Bool.or_eq_true] at hc ⊢
    tauto

/-- The forms of several trees are their serializations with commas between them. -/
lemma forms_eq_intercalate (ns : List Node) :
    forms ns = String.intercalate "," (ns.map serialize) := by
  induction ns with
  | nil => rfl
  | cons n more ih =>
    cases more with
    | nil => rw [forms, List.map_singleton, String.intercalate_singleton, serialize_eq_form]
    | cons m more =>
      rw [forms, ih, List.map_cons, List.map_cons, List.map_cons, String.intercalate_cons_cons,
        ← serialize_eq_form n]
      exact List.cons_ne_nil m more

/-- A leaf has its text in parentheses, with its blanks normalised, and any other node has its
children in brackets, with commas between them. Without stray marks, the shape, the kinds and the
texts of a tree can be read off its form. -/
theorem serialize_eq_iff_sameShape :
    (∀ n : Node, n.serialize =
      if n.children = [] then n.kind ++ "(" ++ normalizeBlanks n.text ++ ")"
      else n.kind ++ "[" ++ String.intercalate "," (n.children.map serialize) ++ "]") ∧
    ∀ n m : Node, n.Unmarked → m.Unmarked → (n.serialize = m.serialize ↔ n.SameShape m) := by
  constructor
  · intro n
    rw [serialize_eq_form]
    split
    · rename_i hleaf
      rw [form_of_isEmpty (List.isEmpty_iff.2 hleaf), leafForm]
    · rename_i hinner
      rw [form_of_not_isEmpty (mt List.isEmpty_iff.1 hinner), forms_eq_intercalate]
  · intro n m hn hm
    rw [sameShape_iff_alike]
    exact ⟨alike_of_serialize_eq hn.readable hm.readable, serialize_eq_of_alike⟩

/-- A sum whose second operand is spelled like this. -/
def sumOf (operand : String) : Node :=
  mk "BinaryOperation" ⟨1, 0⟩ "" [mk "Identifier" ⟨1, 0⟩ "a" [] .plain,
    mk "number_literal" ⟨1, 4⟩ operand [] .plain] .plain

/-- Spellings of an operand that differ in blanks have the same form and shape; a form with another
operand has another shape. -/
theorem serialize_eq_iff_sameShape_sums :
    (sumOf "1  ether").SameShape (sumOf "1\tether ") ∧
      ¬ (sumOf "1  ether").SameShape (sumOf "1ether") := by
  have hwide : (sumOf "1  ether").Unmarked := by decide +kernel
  have htab : (sumOf "1\tether ").Unmarked := by decide +kernel
  have hjoined : (sumOf "1ether").Unmarked := by decide +kernel
  rw [← serialize_eq_iff_sameShape.2 _ _ hwide htab,
    ← serialize_eq_iff_sameShape.2 _ _ hwide hjoined]
  decide +kernel

end Node

end ContractAudit
