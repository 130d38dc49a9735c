import ContractAudit.Tree.Basic

/-!
# The first error

The first node, parents before children, that is an error or was supplied, where only flagged
children are looked into. `firstError` keeps the subtrees still to be searched on a stack;
`firstErrorBelow` is the same search by recursion on the tree.
-/

namespace ContractAudit

namespace ParseTree

/-- Whether a node is itself an error: text that fits nowhere, or a token that was supplied. -/
def isError (t : ParseTree) : Bool :=
  t.tag.type == "ERROR" || t.tag.missing

/-- Whether a node can lead to an error. -/
def isFlagged (t : ParseTree) : Bool :=
  t.tag.hasError || t.tag.missing

/-- The first error among the subtrees on a stack, top first. -/
def searchErrors : List ParseTree → Option ParseTree
  | [] => none
  | t :: rest =>
    if t.isError then some t
    else searchErrors (t.children.filter isFlagged ++ rest)
termination_by stack => sizes stack
decreasing_by
  have := sizes_filter_le isFlagged t.children
  simp only [sizes_append, sizes, size_eq]
  omega

/-- The first error of a tree. -/
def firstError (root : ParseTree) : Option ParseTree :=
  searchErrors [root]

mutual

/-- The first error of a tree, by recursion. -/
def firstErrorBelow : ParseTree → Option ParseTree
  | mk tag children =>
    if (mk tag children).isError then some (mk tag children) else firstErrorAmong children

/-- The first error of the flagged trees of a list. -/
def firstErrorAmong : List ParseTree → Option ParseTree
  | [] => none
  | t :: rest =>
    if t.isFlagged then (t.firstErrorBelow).or (firstErrorAmong rest) else firstErrorAmong rest

end

end ParseTree

end ContractAudit
