import ContractAudit.Ast.Basic
import ContractAudit.Table

/-!
# Walking a tree

`walk` visits a tree with a stack of subtrees still to come; `preorder` is the same order by
recursion. A dispatcher holds a list of callbacks for each kind and calls them along one walk.
-/

namespace ContractAudit

namespace Node

/-- The nodes of the subtrees on a stack, top first. -/
def walkStack : List Node → List Node
  | [] => []
  | n :: rest => n :: walkStack (n.children ++ rest)
termination_by stack => sizes stack
decreasing_by
  simp only [sizes_append, sizes, size_eq]
  omega

/-- A node and everything below it, parents before children, children in order. -/
def walk (n : Node) : List Node :=
  walkStack [n]

/-- The nodes of a part that may be absent. -/
def walkPart : Option Node → List Node
  | some n => n.walk
  | none => []

mutual

/-- The same order by recursion. -/
def preorder : Node → List Node
  | mk kind loc text children detail => mk kind loc text children detail :: preorders children

/-- The nodes of several trees, one tree after the other. -/
def preorders : List Node → List Node
  | [] => []
  | n :: rest => n.preorder ++ preorders rest

end

/-- How far behind a node, in the order of the walk, the node at the end of a path comes. -/
def offset : Node → List Nat → Nat
  | _, [] => 0
  | n, i :: path =>
    match n.children[i]? with
    | some child => 1 + sizes (n.children.take i) + child.offset path
    | none => 0

/-- The contracts, interfaces and libraries of a tree. -/
def contracts (n : Node) : List Node :=
  n.walk.filter fun m => m.kind == Kind.contract

end Node

universe u

/-- A table from kinds to callbacks that change a state. -/
abbrev Dispatcher (σ : Type u) := List (String × List (Node → σ → σ))

namespace Dispatcher

variable {σ : Type u}

/-- A dispatcher without callbacks. -/
def empty : Dispatcher σ := []

/-- The callbacks for a kind. -/
def callbacks (d : Dispatcher σ) (kind : String) : List (Node → σ → σ) :=
  (lookup? kind d).getD []

/-- Registers one more callback for a kind, behind those that the kind has. -/
def on (d : Dispatcher σ) (kind : String) (callback : Node → σ → σ) : Dispatcher σ :=
  upsert kind (d.callbacks kind ++ [callback]) d

/-- A new callback comes last for its kind, and other kinds keep what they have. -/
theorem callbacks_on (d : Dispatcher σ) (kind k : String) (callback : Node → σ → σ) :
    (d.on kind callback).callbacks k =
      if kind == k then d.callbacks k ++ [callback] else d.callbacks k := by
  rw [callbacks, on, lookup?_upsert]
  by_cases h : kind = k
  · rw [if_pos (beq_iff_eq.2 h), if_pos (beq_iff_eq.2 h), h]
    rfl
  · rw [if_neg (mt beq_iff_eq.1 h), if_neg (mt beq_iff_eq.1 h)]
    rfl

/-- Calls the callbacks for a node. -/
def visitNode (d : Dispatcher σ) (s : σ) (n : Node) : σ :=
  (d.callbacks n.kind).foldl (fun s callback => callback n s) s

/-- Calls the callbacks along one walk. -/
def run (d : Dispatcher σ) (root : Node) (s : σ) : σ :=
  root.walk.foldl d.visitNode s

end Dispatcher

/-- Calls the handler of each node's kind along one walk; of two handlers for a kind the first
counts. -/
def visit {σ : Type u} (handlers : List (String × (Node → σ → σ))) (root : Node) (s : σ) : σ :=
  root.walk.foldl
    (fun s n =>
      match handlers.find? fun h => h.1 == n.kind with
      | some (_, handler) => handler n s
      | none => s)
    s

end ContractAudit
