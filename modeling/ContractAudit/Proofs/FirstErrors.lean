import ContractAudit.Proofs.Comments
import ContractAudit.Proofs.Outcomes

/-!
# The first error of a concrete tree

The search for the first error keeps a stack and looks into flagged children only. It is the
recursion over the tree (`firstError_eq_firstErrorBelow`), and what it finds is the first node in
preorder that is an error and is exposed: every node on the way to it from the root, the root apart,
is flagged (`firstError_eq_find?`).

If the flags are exact, every error is exposed, so a text is refused as not being Solidity exactly if
its tree has an error, at the place of the first one. The main statement is `parseSource_firstError`.
-/

namespace ContractAudit

namespace ParseTree

/-! ## The stack and the recursion -/

/-- The first error among trees is that of the first flagged tree that has one. -/
lemma firstErrorAmong_eq_findSome? (ts : List ParseTree) :
    firstErrorAmong ts = (ts.filter isFlagged).findSome? firstErrorBelow := by
  induction ts with
  | nil => rfl
  | cons t ts ih =>
    rw [firstErrorAmong]
    split
    · rename_i h
      rw [List.filter_cons_of_pos h, List.findSome?_cons, ih]
      cases t.firstErrorBelow <;> rfl
    · rename_i h
      rw [List.filter_cons_of_neg h, ih]

/-- The first error of a tree is the tree itself, or the first among its children. -/
lemma firstErrorBelow_eq (t : ParseTree) :
    t.firstErrorBelow = if t.isError then some t else firstErrorAmong t.children := by
  cases t
  rw [firstErrorBelow]
  rfl

/-- A stack is searched tree by tree. -/
lemma searchErrors_eq_findSome? (stack : List ParseTree) :
    searchErrors stack = stack.findSome? firstErrorBelow := by
  fun_induction searchErrors stack with
  | case1 => rfl
  | case2 t rest h => rw [List.findSome?_cons, firstErrorBelow_eq, if_pos h]
  | case3 t rest h ih =>
    rw [ih, List.findSome?_append, List.findSome?_cons, firstErrorBelow_eq, if_neg h,
      firstErrorAmong_eq_findSome?]
    cases (t.children.filter isFlagged).findSome? firstErrorBelow <;> rfl

/-- The search with a stack is the recursion over the tree. -/
lemma firstError_eq_firstErrorBelow (root : ParseTree) :
    root.firstError = root.firstErrorBelow := by
  rw [firstError, searchErrors_eq_findSome?, List.findSome?_singleton]

/-! ## The recursion and the preorder -/

mutual

/-- What is around a tree is around all of its nodes. -/
theorem surrounded_append (around outer : List ParseTree) :
    (t : ParseTree) → t.surrounded (around ++ outer) =
      (t.surrounded around).map fun row => (row.1 ++ outer, row.2)
  | mk tag children => by
    rw [surrounded, surrounded, List.map_cons, ← List.cons_append,
      surroundedAll_append (mk tag children :: around) outer children]

/-- What is around a list of trees is around all of their nodes. -/
theorem surroundedAll_append (around outer : List ParseTree) :
    (ts : List ParseTree) → surroundedAll (around ++ outer) ts =
      (surroundedAll around ts).map fun row => (row.1 ++ outer, row.2)
  | [] => rfl
  | t :: ts => by
    rw [surroundedAll, surroundedAll, List.map_append, surrounded_append around outer t,
      surroundedAll_append around outer ts]

end

mutual

/-- Without what is around them, the nodes are those of the preorder. -/
theorem map_snd_surrounded (around : List ParseTree) :
    (t : ParseTree) → (t.surrounded around).map Prod.snd = t.preorder
  | mk tag children => by
    rw [surrounded, List.map_cons, map_snd_surroundedAll (mk tag children :: around) children,
      preorder]

/-- The same of a list of trees. -/
theorem map_snd_surroundedAll (around : List ParseTree) :
    (ts : List ParseTree) → (surroundedAll around ts).map Prod.snd = preorders ts
  | [] => rfl
  | t :: ts => by
    rw [surroundedAll, List.map_append, map_snd_surrounded around t,
      map_snd_surroundedAll around ts, preorders]

end

/-- Whether a node below flagged nodes is flagged and an error. -/
def isFlaggedError (row : List ParseTree × ParseTree) : Bool :=
  row.2.isError && hasThroughout isFlagged row

/-- Below a tree that is not flagged, no error is below flagged nodes only. -/
lemma find?_surrounded_of_not_isFlagged (around : List ParseTree) {t : ParseTree}
    (h : t.isFlagged = false) : (t.surrounded around).find? isFlaggedError = none := by
  have hnone := filter_surrounded_of_root_not around h
  rw [List.filter_eq_nil_iff] at hnone
  rw [List.find?_eq_none]
  intro row hrow hfound
  exact hnone row hrow (Bool.and_eq_true_iff.1 hfound).2

mutual

/-- Under flagged nodes, the recursion finds the first error in preorder that is below flagged nodes
only. -/
theorem firstErrorBelow_eq_find? {around : List ParseTree} (haround : around.all isFlagged = true) :
    (t : ParseTree) → t.isFlagged = true →
      t.firstErrorBelow = ((t.surrounded around).find? isFlaggedError).map Prod.snd
  | mk tag children, hflagged => by
    have hbelow : (mk tag children :: around).all isFlagged = true := by
      rw [List.all_cons, hflagged, haround]
      rfl
    have hthroughout : hasThroughout isFlagged (around, mk tag children) = true := by
      rw [hasThroughout, hflagged, haround]
      rfl
    rw [firstErrorBelow, surrounded]
    split
    · rename_i herror
      rw [List.find?_cons_of_pos (by rw [isFlaggedError, herror, hthroughout]; rfl)]
      rfl
    · rename_i herror
      rw [List.find?_cons_of_neg (by rw [isFlaggedError, hthroughout]; simpa using herror)]
      exact firstErrorAmong_eq_find? hbelow children

/-- Among trees below flagged ones, the first error is the first flagged one in preorder. -/
theorem firstErrorAmong_eq_find? {around : List ParseTree} (haround : around.all isFlagged = true) :
    (ts : List ParseTree) →
      firstErrorAmong ts = ((surroundedAll around ts).find? isFlaggedError).map Prod.snd
  | [] => rfl
  | t :: ts => by
    rw [firstErrorAmong, surroundedAll, List.find?_append, Option.map_or]
    split
    · rename_i hflagged
      rw [firstErrorBelow_eq_find? haround t hflagged, firstErrorAmong_eq_find? haround ts]
    · rename_i hflagged
      rw [find?_surrounded_of_not_isFlagged around (by simpa using hflagged)]
      exact firstErrorAmong_eq_find? haround ts

end

/-- Whether a node, given with the nodes around it up to the root, is an error to which flagged
nodes lead: the node itself and every node around it are flagged. The root need not be. -/
def isExposedError (row : List ParseTree × ParseTree) : Bool :=
  row.2.isError && (row.2 :: row.1).dropLast.all isFlagged

/-- A root is exposed whether it is flagged or not. -/
lemma isExposedError_root (root : ParseTree) : isExposedError ([], root) = root.isError :=
  Bool.and_true _

/-- Under the root alone, an exposed error is below flagged nodes only. -/
lemma isExposedError_append_root (row : List ParseTree × ParseTree) (root : ParseTree) :
    isExposedError (row.1 ++ [root], row.2) = isFlaggedError row := by
  rw [isExposedError, ← List.cons_append, List.dropLast_concat]
  rfl

/-- The search finds the first exposed error in preorder. -/
lemma firstError_eq_find? (root : ParseTree) :
    root.firstError = ((root.surrounded []).find? isExposedError).map Prod.snd := by
  have hrows : root.surrounded [] =
      ([], root) :: (surroundedAll [] root.children).map fun row => (row.1 ++ [root], row.2) := by
    rw [← surroundedAll_append, List.nil_append]
    cases root
    rfl
  rw [firstError_eq_firstErrorBelow, firstErrorBelow_eq, hrows]
  split
  · rename_i herror
    rw [List.find?_cons_of_pos ((isExposedError_root root).trans herror)]
    rfl
  · rename_i herror
    have hbelow : isExposedError ∘ (fun row : List ParseTree × ParseTree =>
        (row.1 ++ [root], row.2)) = isFlaggedError :=
      funext fun row => isExposedError_append_root row root
    rw [List.find?_cons_of_neg (by rwa [isExposedError_root]), List.find?_map, Option.map_map,
      hbelow]
    exact firstErrorAmong_eq_find? rfl root.children

/-! ## Exact flags -/

/-- A node is flagged exactly if it or something below it is an error. -/
def ExactFlags (root : ParseTree) : Prop :=
  ∀ t ∈ root.preorder, t.tag.hasError = true ↔ ∃ u ∈ t.preorder, u.isError = true

mutual

/-- The nodes around a node are nodes of the tree above it, or they are around the tree. -/
theorem mem_preorder_of_mem_around {row : List ParseTree × ParseTree} {u : ParseTree}
    (around : List ParseTree) : (t : ParseTree) → row ∈ t.surrounded around → u ∈ row.1 →
      u ∈ around ∨ u ∈ t.preorder ∧ row.2 ∈ u.preorder
  | mk tag children, hrow, hu => by
    rcases List.mem_cons.1 hrow with rfl | hrow
    · exact .inl hu
    · rcases mem_preorders_of_mem_around (mk tag children :: around) children hrow hu with
        hmem | ⟨hbelow, hrow'⟩
      · rcases List.mem_cons.1 hmem with rfl | hmem
        · refine .inr ⟨mem_preorder_self _, ?_⟩
          exact List.mem_cons_of_mem _ (mem_preorders_of_mem_surroundedAll _ children hrow)
        · exact .inl hmem
      · exact .inr ⟨List.mem_cons_of_mem _ hbelow, hrow'⟩

/-- What is around a node of a list was around the list or has the node below it. -/
theorem mem_preorders_of_mem_around {row : List ParseTree × ParseTree} {u : ParseTree}
    (around : List ParseTree) : (ts : List ParseTree) → row ∈ surroundedAll around ts →
      u ∈ row.1 → u ∈ around ∨ u ∈ preorders ts ∧ row.2 ∈ u.preorder
  | [], hrow, _ => by cases hrow
  | t :: ts, hrow, hu => by
    rcases List.mem_append.1 hrow with hrow | hrow
    · exact (mem_preorder_of_mem_around around t hrow hu).imp_right fun h =>
        ⟨List.mem_append_left _ h.1, h.2⟩
    · exact (mem_preorders_of_mem_around around ts hrow hu).imp_right fun h =>
        ⟨List.mem_append_right _ h.1, h.2⟩

end

/-- With exact flags every error is exposed. -/
lemma ExactFlags.isExposedError_eq {root : ParseTree} (h : root.ExactFlags)
    {row : List ParseTree × ParseTree} (hrow : row ∈ root.surrounded []) :
    isExposedError row = row.2.isError := by
  cases herror : row.2.isError with
  | false => rw [isExposedError, herror, Bool.false_and]
  | true =>
    rw [isExposedError, herror, Bool.true_and, List.all_eq_true]
    intro u hu
    -- a node on the way to an error has the error in its subtree, so its flag is set
    obtain ⟨hmem, hbelow⟩ : u ∈ root.preorder ∧ row.2 ∈ u.preorder := by
      rcases List.mem_cons.1 (List.dropLast_subset _ hu) with rfl | haround
      · exact ⟨mem_preorder_of_mem_surrounded [] root hrow, mem_preorder_self _⟩
      · rcases mem_preorder_of_mem_around [] root hrow haround with hnone | hsome
        · cases hnone
        · exact hsome
    rw [isFlagged, (h u hmem).2 ⟨row.2, hbelow, herror⟩, Bool.true_or]

/-- With exact flags the search finds the first error in preorder. -/
lemma ExactFlags.firstError_eq {root : ParseTree} (h : root.ExactFlags) :
    root.firstError = root.preorder.find? isError := by
  rw [firstError_eq_find?, ← map_snd_surrounded [], List.find?_map]
  congr 1
  apply List.find?_congr
  intro row hrow
  exact h.isExposedError_eq hrow

end ParseTree

/-! ## Refused texts -/

/-- Whether a text is refused because it is not Solidity. -/
def ParseError.isSyntaxError : ParseError → Bool
  | .mistake _ _ => true
  | .invalid => true
  | _ => false

/-- A text that can be encoded is refused as not being Solidity exactly if the root is flagged, with
an explanation. -/
lemma parseSource_eq_explain {source : Text} {bytes : List UInt8} {root : ParseTree}
    (hbytes : Utf8.encode source = .ok bytes) (hroot : root.tag.hasError = true) :
    parseSource source root = .error (explain bytes root) := by
  simp only [parseSource, hbytes, hroot, if_true]

/-- A tree with errors is explained as a mistake in the text. -/
lemma isSyntaxError_explain (bytes : List UInt8) (root : ParseTree) :
    (explain bytes root).isSyntaxError = true := by
  unfold explain
  cases root.firstError <;> rfl

/-- A text is refused for a mistake exactly if its tree is flagged. -/
lemma isSyntaxError_parseSource_iff {source : Text} {bytes : List UInt8} {root : ParseTree}
    (hbytes : Utf8.encode source = .ok bytes) :
    (∃ e, parseSource source root = .error e ∧ e.isSyntaxError = true) ↔
      root.tag.hasError = true := by
  constructor
  · rintro ⟨e, he, hsyntax⟩
    cases hroot : root.tag.hasError with
    | true => rfl
    | false =>
      rw [parseSource_eq_buildKept hbytes hroot] at he
      split at he
      · cases he
        cases hsyntax
      · cases he
  · intro hroot
    exact ⟨_, parseSource_eq_explain hbytes hroot, isSyntaxError_explain bytes root⟩

/-- The search for an error finds the first node in preorder that is an error and to which flagged
nodes lead from the root, and nothing exactly if there is no such node. If the flags are exact, a
text that can be encoded is refused as not being Solidity exactly if its tree has an error, and the
line and the column that are given are those of the first error in preorder. -/
theorem parseSource_firstError (root : ParseTree) :
    (root.surrounded []).map Prod.snd = root.preorder ∧
      (∀ e, root.firstError = some e ↔ ∃ before around after,
        root.surrounded [] = before ++ (around, e) :: after ∧
          ParseTree.isExposedError (around, e) = true ∧
          ∀ row ∈ before, ParseTree.isExposedError row = false) ∧
      (root.firstError = none ↔
        ∀ row ∈ root.surrounded [], ParseTree.isExposedError row = false) ∧
      (root.ExactFlags → ∀ (source : Text) (bytes : List UInt8), Utf8.encode source = .ok bytes →
        ((∃ e, parseSource source root = .error e ∧ e.isSyntaxError = true) ↔
          ∃ t ∈ root.preorder, t.isError = true) ∧
        ∀ before e after, root.preorder = before ++ e :: after → e.isError = true →
          (∀ t ∈ before, t.isError = false) →
          ∃ m, parseSource source root =
            .error (.mistake ⟨rowAt bytes e.tag.start + 1, columnAt bytes e.tag.start⟩ m)) := by
  refine ⟨ParseTree.map_snd_surrounded [] root, ?_, ?_, ?_⟩
  · intro e
    rw [ParseTree.firstError_eq_find?, Option.map_eq_some_iff]
    constructor
    · rintro ⟨row, hrow, rfl⟩
      obtain ⟨hexposed, before, after, hrows, hbefore⟩ := List.find?_eq_some_iff_append.1 hrow
      exact ⟨before, row.1, after, hrows, hexposed, fun r hr => by simpa using hbefore r hr⟩
    · rintro ⟨before, around, after, hrows, hexposed, hbefore⟩
      refine ⟨(around, e), List.find?_eq_some_iff_append.2 ⟨hexposed, before, after, hrows, ?_⟩, rfl⟩
      intro row hrow
      rw [hbefore row hrow]
      rfl
  · rw [ParseTree.firstError_eq_find?, Option.map_eq_none_iff, List.find?_eq_none]
    simp only [Bool.not_eq_true]
  · intro hexact source bytes hbytes
    refine ⟨?_, ?_⟩
    · rw [isSyntaxError_parseSource_iff hbytes]
      exact hexact root root.mem_preorder_self
    · intro before e after hpreorder herror hbefore
      have hfirst : root.firstError = some e := by
        rw [hexact.firstError_eq, List.find?_eq_some_iff_append]
        refine ⟨herror, before, after, hpreorder, fun t ht => ?_⟩
        rw [hbefore t ht]
        rfl
      have hroot : root.tag.hasError = true :=
        (hexact root root.mem_preorder_self).2 ⟨e, by simp [hpreorder], herror⟩
      have hplace : e.tag.location bytes =
          ⟨rowAt bytes e.tag.start + 1, columnAt bytes e.tag.start⟩ :=
        Location.ofOffset_eq bytes e.tag.start
      rw [parseSource_eq_explain hbytes hroot, explain, hfirst, ← hplace]
      exact ⟨_, rfl⟩

/-- The text of an error in the second line, before a semicolon that was supplied. -/
def brokenStatement : Text :=
  Text.ofString "a\n)"

/-- The error, around a bracket that nothing opens. -/
def strayBracket : ParseTree :=
  .mk ⟨"ERROR", 2, 3, true, false, true, none⟩ [.mk ⟨")", 2, 3, false, false, false, none⟩ []]

/-- The tree of the text, flagged on the way to the error. -/
def brokenTree : ParseTree :=
  .mk ⟨"source_file", 0, 3, true, false, true, none⟩
    [.mk ⟨"identifier", 0, 1, true, false, false, none⟩ [],
     .mk ⟨"expression_statement", 2, 3, true, false, true, none⟩
       [strayBracket, .mk ⟨";", 3, 3, false, true, true, none⟩ []]]

/-- The error comes before the semicolon and gives the place. -/
theorem parseSource_firstError_brokenStatement :
    brokenTree.ExactFlags ∧ Utf8.encode brokenStatement = .ok [0x61, 0x0A, 0x29] ∧
      brokenTree.firstError = some strayBracket ∧
      ∃ m, parseSource brokenStatement brokenTree = .error (.mistake ⟨2, 0⟩ m) := by
  have hexact : brokenTree.ExactFlags := by
    unfold ParseTree.ExactFlags
    decide
  have hbytes : Utf8.encode brokenStatement = .ok [0x61, 0x0A, 0x29] := by decide
  obtain ⟨-, hfirst, -, hrefused⟩ := parseSource_firstError brokenTree
  refine ⟨hexact, hbytes, ?_, ?_⟩
  · exact (hfirst strayBracket).2
      ⟨(brokenTree.surrounded []).take 3, _, _, rfl, by decide, by decide⟩
  · exact (hrefused hexact brokenStatement _ hbytes).2 (brokenTree.preorder.take 3) strayBracket _
      rfl rfl (by decide)

end ContractAudit
