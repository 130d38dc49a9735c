/-!
# Typed trees

A typed tree keeps every named part of a text and adds what detectors ask for: names, operators and
references to the parts that play a role. A reference is a path of child positions; a tree that is
built by hand may also refer to a node that is not below it.
-/

namespace ContractAudit

/-- Where a node begins: lines count from one, columns from zero. -/
structure Location where
  line : Int
  column : Int
  deriving DecidableEq, Repr, Inhabited

/-- A part that a node refers to. -/
inductive Reference (α : Type) where
  /-- The node reached by going down through these child positions. -/
  | inside (path : List Nat)
  /-- A node of its own. -/
  | apart (node : α)

/-- What a node carries beyond its kind, place, text and children. -/
inductive Detail (α : Type) where
  | plain
  | sourceUnit
  | contract (name : Option String) (contractKind : String)
  | function (name visibility mutability : Option String) (isConstructor : Bool)
      (body : Option (Reference α))
  | conditional (condition : Option (Reference α))
  | loop (condition body : Option (Reference α))
  | call (callee : Option String) (isMember : Bool)
  | member (name : Option String)
  | assignment (operator : String)
  | binary (operator : String) (left right : Option (Reference α))

/-- A node of a typed tree. Its kind is one of the kinds that detectors know, or the type that the
grammar gives to a construct they do not look at. -/
inductive Node where
  | mk (kind : String) (loc : Location) (text : String) (children : List Node)
      (detail : Detail Node)

/-! ## Kinds that detectors know -/

namespace Kind

/-- A whole file. -/
def sourceUnit : String := "SourceUnit"
/-- A contract, library or interface. -/
def contract : String := "ContractDefinition"
/-- A function, modifier or constructor. -/
def function : String := "FunctionDefinition"
/-- A branch on a condition. -/
def conditional : String := "IfStatement"
/-- A loop with a head. -/
def loop : String := "ForStatement"
/-- A call. -/
def call : String := "FunctionCall"
/-- An access to a member. -/
def member : String := "MemberAccess"
/-- An assignment. -/
def assignment : String := "Assignment"
/-- An operation on two operands. -/
def binary : String := "BinaryOperation"
/-- A name. -/
def identifier : String := "Identifier"

/-- All of them. -/
def all : List String :=
  [sourceUnit, contract, function, conditional, loop, call, member, assignment, binary, identifier]

end Kind

namespace Node

/-- The kind of a node. -/
def kind : Node → String
  | mk kind _ _ _ _ => kind

/-- Where a node stands in the source. -/
def loc : Node → Location
  | mk _ loc _ _ _ => loc

/-- The source text of a node. -/
def text : Node → String
  | mk _ _ text _ _ => text

/-- The nodes right below a node. -/
def children : Node → List Node
  | mk _ _ _ children _ => children

/-- What a node carries beyond the rest. -/
def detail : Node → Detail Node
  | mk _ _ _ _ detail => detail

mutual

/-- The number of nodes of a tree. -/
def size : Node → Nat
  | mk _ _ _ children _ => sizes children + 1

/-- The number of nodes of several trees. -/
def sizes : List Node → Nat
  | [] => 0
  | n :: rest => n.size + sizes rest

end

/-- A node counts one more than its children together. -/
theorem size_eq (n : Node) : n.size = sizes n.children + 1 := by
  cases n
  rfl

/-- Sizes add up over two lists. -/
theorem sizes_append (a b : List Node) : sizes (a ++ b) = sizes a + sizes b := by
  induction a with
  | nil => simp [sizes]
  | cons n rest ih => simp [sizes, ih, Nat.add_assoc]

/-- The node at the end of a path of child positions. -/
def descend : Node → List Nat → Option Node
  | n, [] => some n
  | n, i :: path =>
    match n.children[i]? with
    | some child => child.descend path
    | none => none

/-- The node that a reference of `n` stands for. -/
def resolve (n : Node) : Reference Node → Option Node
  | .inside path => n.descend path
  | .apart node => some node

/-- The node that an optional reference of `n` stands for. -/
def resolve? (n : Node) (r : Option (Reference Node)) : Option Node :=
  r.bind n.resolve

end Node

/-- What went wrong inside a detector or a conversion. -/
inductive Fault where
  /-- A node has the kind but not the attributes of a typed node. -/
  | noAttribute (name : String)
  /-- A detector gave up with a message. -/
  | failure (message : String)
  /-- A detector does not say which nodes it handles. -/
  | unsupported
  deriving DecidableEq, Repr

/-- The fault in words. -/
def Fault.message : Fault → String
  | .noAttribute name => "'Node' object has no attribute '" ++ name ++ "'"
  | .failure message => message
  | .unsupported => ""

namespace Node

/-- The parts of a function that detectors look at. -/
structure FunctionView where
  name : Option String
  visibility : Option String
  mutability : Option String
  isConstructor : Bool
  body : Option Node

/-- The function that a node defines. -/
def function? (n : Node) : Option FunctionView :=
  match n.detail with
  | .function name visibility mutability isConstructor body =>
    some ⟨name, visibility, mutability, isConstructor, n.resolve? body⟩
  | _ => none

/-- The condition of an `if` or a loop; the inner option is absence of the part. -/
def condition? (n : Node) : Option (Option Node) :=
  match n.detail with
  | .conditional condition => some (n.resolve? condition)
  | .loop condition _ => some (n.resolve? condition)
  | _ => none

/-- The body of a loop; the inner option is absence of the part. -/
def loopBody? (n : Node) : Option (Option Node) :=
  match n.detail with
  | .loop _ body => some (n.resolve? body)
  | _ => none

/-- The name of a called function and whether it is a member. -/
def call? (n : Node) : Option (Option String × Bool) :=
  match n.detail with
  | .call callee isMember => some (callee, isMember)
  | _ => none

/-- The name of the member that a node selects. -/
def member? (n : Node) : Option (Option String) :=
  match n.detail with
  | .member name => some name
  | _ => none

/-- The operator and operands of a binary operation. -/
def binary? (n : Node) : Option (String × Option Node × Option Node) :=
  match n.detail with
  | .binary operator left right => some (operator, n.resolve? left, n.resolve? right)
  | _ => none

/-- The name and kind of a contract. -/
def contract? (n : Node) : Option (Option String × String) :=
  match n.detail with
  | .contract name contractKind => some (name, contractKind)
  | _ => none

end Node

end ContractAudit
