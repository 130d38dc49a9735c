/-!
# Concrete trees

The concrete tree of a Solidity text: every node has a type, the span of bytes that it covers and
a few flags, and may be the part of its parent that a field names.
-/

namespace ContractAudit

/-- What a concrete tree says about one of its nodes. -/
structure Tag where
  /-- The type of the node in the grammar. -/
  type : String
  /-- Offset of the first byte. -/
  start : Nat
  /-- Offset after the last byte. -/
  stop : Nat
  /-- Whether the node stands for a rule or a named token. -/
  named : Bool
  /-- Whether the node was supplied where the text lacks it. -/
  missing : Bool
  /-- Whether an error lies in the node. -/
  hasError : Bool
  /-- The field of the parent that the node fills. -/
  field : Option String
  deriving DecidableEq, Repr, Inhabited

/-- A concrete tree. -/
inductive ParseTree where
  | mk (tag : Tag) (children : List ParseTree)
  deriving Inhabited

namespace ParseTree

/-- What the tree says about its root. -/
def tag : ParseTree → Tag
  | mk tag _ => tag

/-- The trees below the root. -/
def children : ParseTree → List ParseTree
  | mk _ children => children

mutual

/-- The number of nodes of a tree. -/
def size : ParseTree → Nat
  | mk _ children => sizes children + 1

/-- The number of nodes of several trees. -/
def sizes : List ParseTree → Nat
  | [] => 0
  | t :: rest => t.size + sizes rest

end

/-- A tree counts one more than its children together. -/
theorem size_eq (t : ParseTree) : t.size = sizes t.children + 1 := by
  cases t
  rfl

/-- Sizes add up over two lists. -/
theorem sizes_append (a b : List ParseTree) : sizes (a ++ b) = sizes a + sizes b := by
  induction a with
  | nil => simp [sizes]
  | cons t rest ih => simp [sizes, ih, Nat.add_assoc]

/-- Trees that are kept count no more than all of them. -/
theorem sizes_filter_le (p : ParseTree → Bool) (ts : List ParseTree) :
    sizes (ts.filter p) ≤ sizes ts := by
  induction ts with
  | nil => simp
  | cons t rest ih =>
    simp only [List.filter_cons]
    split <;> simp only [sizes] <;> omega

mutual

/-- The nodes of a tree, parents before children, children in order. -/
def preorder : ParseTree → List ParseTree
  | mk tag children => mk tag children :: preorders children

/-- The nodes of several trees, one tree after the other. -/
def preorders : List ParseTree → List ParseTree
  | [] => []
  | t :: rest => t.preorder ++ preorders rest

end

/-- Attaches to a row the trees that follow it on deeper levels. -/
def attach (depth : Nat) (tag : Tag) (later : List (Nat × ParseTree)) : List (Nat × ParseTree) :=
  let below := later.takeWhile fun t => depth < t.1
  (depth, mk tag (below.map Prod.snd)) :: later.drop below.length

/-- The tree whose nodes, parents before children, have these depths and tags. -/
def ofRows? (rows : List (Nat × Tag)) : Option ParseTree :=
  (rows.foldr (fun row later => attach row.1 row.2 later) []).head?.map Prod.snd

end ParseTree

end ContractAudit
