import ContractAudit.Ast.Wrapper
import ContractAudit.Table
import ContractAudit.Text.Blank
import ContractAudit.Text.Utf8
import ContractAudit.Tree.FirstError

/-!
# Building typed trees

The typed tree of a text is built from its concrete tree bottom-up: a node is made from its named
children that are not comments. `buildStack` keeps the nodes that are not finished on a stack;
`build` is the same by recursion on the tree. A concrete tree with errors is refused, and the first
error explains why.
-/

namespace ContractAudit

/-- The bytes from one offset to another, as far as there are any. -/
def slice (bytes : List UInt8) (start stop : Nat) : List UInt8 :=
  (bytes.drop start).take (stop - start)

/-- The text of a node. -/
def Tag.text (bytes : List UInt8) (t : Tag) : String :=
  Utf8.decodeLossy (slice bytes t.start t.stop)

/-- The place that is reached from a line and a column after so many bytes: only a line feed ends a
line, and columns count bytes. -/
def placeAfter (line column : Nat) : Nat → List UInt8 → Location
  | 0, _ => ⟨line, column⟩
  | _, [] => ⟨line, column⟩
  | n + 1, b :: rest =>
    if b == 0x0A then placeAfter (line + 1) 0 n rest else placeAfter line (column + 1) n rest

/-- The place of an offset, as far as there are bytes. -/
def Location.ofOffset (bytes : List UInt8) (offset : Nat) : Location :=
  placeAfter 1 0 offset bytes

/-- The place of a node. -/
def Tag.location (bytes : List UInt8) (t : Tag) : Location :=
  Location.ofOffset bytes t.start

namespace ParseTree

/-- Whether a child becomes a node of the typed tree. -/
def isKept (t : ParseTree) : Bool :=
  t.tag.named && t.tag.type != "comment"

/-- The children that become nodes of the typed tree. -/
def kept (t : ParseTree) : List ParseTree :=
  t.children.filter isKept

/-- The first child that fills a field. -/
def childByField? (t : ParseTree) (field : String) : Option ParseTree :=
  t.children.find? fun c => c.tag.field == some field

/-- The type of the first child that is not named. -/
def anonymousToken? (t : ParseTree) : Option String :=
  (t.children.find? fun c => !c.tag.named).map fun c => c.tag.type

end ParseTree

/-- The position of the last element of a list with a property. -/
def lastIndex? {α : Type} (p : α → Bool) (xs : List α) : Option Nat :=
  (xs.reverse.findIdx? p).map fun i => xs.length - 1 - i

/-- By what a child is found again: its span and its type. -/
def Tag.key (tag : Tag) : Nat × Nat × String :=
  (tag.start, tag.stop, tag.type)

/-- The positions of the children that are kept, by their keys. -/
def spanTable (kept : List Tag) : List ((Nat × Nat × String) × Nat) :=
  kept.zipIdx.foldl (fun table row => upsert row.1.key row.2 table) []

/-- The position of a field among the children that are kept. -/
def fieldIndex? (t : ParseTree) (kept : List Tag) (field : String) : Option Nat :=
  match t.childByField? field with
  | none => none
  | some c => lookup? c.tag.key (spanTable kept)

/-- The position of the first kept child of a type. -/
def typeIndex? (kept : List Tag) (type : String) : Option Nat :=
  kept.findIdx? fun tag => tag.type == type

/-- The kinds of contract-like declarations. -/
def contractKind? (type : String) : Option String :=
  if type == "contract_declaration" then some "contract"
  else if type == "interface_declaration" then some "interface"
  else if type == "library_declaration" then some "library"
  else none

/-- Whether a type is a word for visibility. -/
def isVisibilityWord (type : String) : Bool :=
  type == "public" || type == "external" || type == "internal" || type == "private"

/-- Whether a type is a word for mutability. -/
def isMutabilityWord (type : String) : Bool :=
  type == "view" || type == "pure" || type == "payable"

/-- Visibility and mutability after one more child of a function; a later child wins. -/
def modifiersStep (bytes : List UInt8) (seen : Option String × Option String) (child : ParseTree) :
    Option String × Option String :=
  let type := child.tag.type
  if type == "visibility" then (some (stripString (child.tag.text bytes)), seen.2)
  else if type == "state_mutability" then (seen.1, some (stripString (child.tag.text bytes)))
  else if isVisibilityWord type then (some type, seen.2)
  else if isMutabilityWord type then (seen.1, some type)
  else seen

/-- A reference to a child. -/
def childReference (i : Nat) : Reference Node :=
  .inside [i]

/-- A reference to what a child wraps. -/
def unwrappedReference (children : List Node) (i : Nat) : Reference Node :=
  match children[i]? with
  | some child => .inside (i :: child.unwrapPath)
  | none => .inside [i]

/-- The position of the first child. -/
def firstPosition? (children : List Node) : Option Nat :=
  if children.isEmpty then none else some 0

/-- The position of the last child. -/
def lastPosition? (children : List Node) : Option Nat :=
  if children.isEmpty then none else some (children.length - 1)

/-- The position of the first expression statement strictly between the first and the last child. -/
def innerStatement? (children : List Node) : Option Nat :=
  (((children.drop 1).dropLast).findIdx? fun c => c.kind == "expression_statement").map (· + 1)

/-- The text of the child at a position. -/
def textAt? (children : List Node) (i : Option Nat) : Option String :=
  i.bind fun i => (children[i]?).map Node.text

/-- The position of a name: the field for it, or else the first identifier. -/
def namePosition? (t : ParseTree) (kept : List Tag) : Option Nat :=
  (fieldIndex? t kept "name").or (typeIndex? kept "identifier")

/-- What a contract carries. -/
def contractDetail (t : ParseTree) (kept : List Tag) (children : List Node)
    (contractKind : String) : Detail Node :=
  .contract (textAt? children (namePosition? t kept)) contractKind

/-- Whether nodes of a type become functions. -/
def isFunctionType (type : String) : Bool :=
  type == "function_definition" || type == "constructor_definition"
    || type == "fallback_receive_definition"

/-- What a function carries. Only functions proper have a name. -/
def functionDetail (bytes : List UInt8) (t : ParseTree) (kept : List Tag) (children : List Node) :
    Detail Node :=
  let modifiers := t.children.foldl (modifiersStep bytes) (none, none)
  let name :=
    if t.tag.type == "function_definition" then textAt? children (namePosition? t kept) else none
  let body := (fieldIndex? t kept "body").or (typeIndex? kept "function_body")
  .function name modifiers.1 modifiers.2 (t.tag.type == "constructor_definition")
    (body.map childReference)

/-- What an `if` carries. -/
def conditionalDetail (t : ParseTree) (kept : List Tag) (children : List Node) : Detail Node :=
  let condition := (fieldIndex? t kept "condition").or (firstPosition? children)
  .conditional (condition.map (unwrappedReference children))

/-- What a `for` carries. -/
def loopDetail (t : ParseTree) (kept : List Tag) (children : List Node) : Detail Node :=
  let body := (fieldIndex? t kept "body").or (lastPosition? children)
  let condition := (fieldIndex? t kept "condition").or (innerStatement? children)
  .loop (condition.map (unwrappedReference children)) (body.map childReference)

/-- What a call carries. -/
def callDetail (t : ParseTree) (kept : List Tag) (children : List Node) :
    Except Fault (Detail Node) :=
  let target := (fieldIndex? t kept "function").or (firstPosition? children)
  match target.bind fun i => children[i]? with
  | none => .ok (.call none false)
  | some target =>
    match target.callee with
    | .ok (callee, isMember) => .ok (.call callee isMember)
    | .error e => .error e

/-- What a member access carries. -/
def memberDetail (t : ParseTree) (kept : List Tag) (children : List Node) : Detail Node :=
  let name :=
    (fieldIndex? t kept "property").or (lastIndex? (fun c => c.kind == Kind.identifier) children)
  .member (textAt? children name)

/-- Whether nodes of a type become assignments. -/
def isAssignmentType (type : String) : Bool :=
  type == "assignment_expression" || type == "augmented_assignment_expression"

/-- What an assignment carries. -/
def assignmentDetail (t : ParseTree) : Detail Node :=
  .assignment ((t.anonymousToken?.filter (· != "")).getD "=")

/-- What a binary operation carries. -/
def binaryDetail (t : ParseTree) (kept : List Tag) (children : List Node) : Detail Node :=
  let operator :=
    match t.childByField? "operator" with
    | some c => c.tag.type
    | none => t.anonymousToken?.getD ""
  let left := (fieldIndex? t kept "left").or (firstPosition? children)
  let right := (fieldIndex? t kept "right").or
    (if 1 < children.length then lastPosition? children else none)
  .binary operator (left.map (unwrappedReference children))
    (right.map (unwrappedReference children))

/-- The kind of the node that a concrete node becomes, and what the node carries. -/
def shapeOf (bytes : List UInt8) (t : ParseTree) (kept : List Tag) (children : List Node) :
    Except Fault (String × Detail Node) :=
  let type := t.tag.type
  match contractKind? type with
  | some contractKind => .ok (Kind.contract, contractDetail t kept children contractKind)
  | none =>
    if isFunctionType type then .ok (Kind.function, functionDetail bytes t kept children)
    else if type == "if_statement" then .ok (Kind.conditional, conditionalDetail t kept children)
    else if type == "for_statement" then .ok (Kind.loop, loopDetail t kept children)
    else if type == "call_expression" then
      match callDetail t kept children with
      | .ok detail => .ok (Kind.call, detail)
      | .error e => .error e
    else if type == "member_expression" then .ok (Kind.member, memberDetail t kept children)
    else if isAssignmentType type then .ok (Kind.assignment, assignmentDetail t)
    else if type == "binary_expression" then .ok (Kind.binary, binaryDetail t kept children)
    else if type == "identifier" then .ok (Kind.identifier, .plain)
    else .ok (type, .plain)

/-- Makes a node from a concrete node and its finished children. -/
def assemble (bytes : List UInt8) (t : ParseTree) (parts : List (Tag × Node)) :
    Except Fault Node :=
  let children := parts.map Prod.snd
  match shapeOf bytes t (parts.map Prod.fst) children with
  | .ok (kind, detail) =>
    .ok (.mk kind (t.tag.location bytes) (t.tag.text bytes) children detail)
  | .error e => .error e

/-- A concrete node whose children are being built. -/
structure Unfinished where
  tree : ParseTree
  /-- The kept children that are still to be built. -/
  pending : List ParseTree
  /-- The finished children, latest first. -/
  done : List (Tag × Node)

/-- A concrete node of which nothing is built yet. -/
def Unfinished.start (t : ParseTree) : Unfinished :=
  ⟨t, t.kept, []⟩

/-- What a stack of unfinished nodes still needs. -/
def unfinishedSize : List Unfinished → Nat
  | [] => 0
  | u :: rest => 2 * ParseTree.sizes u.pending + 1 + unfinishedSize rest

/-- Builds with a stack of unfinished nodes, innermost first, under a node whose finished children
are in `done`, latest first, and whose other children are `pending`. -/
def buildStack (bytes : List UInt8) (stack : List Unfinished) (pending : List ParseTree)
    (done : List (Tag × Node)) : Except Fault (List (Tag × Node)) :=
  match stack, pending with
  | [], [] => .ok done.reverse
  | [], t :: more => buildStack bytes [.start t] more done
  | u :: outer, pending =>
    match _h : u.pending with
    | t :: more => buildStack bytes (.start t :: { u with pending := more } :: outer) pending done
    | [] =>
      match assemble bytes u.tree u.done.reverse with
      | .error e => .error e
      | .ok node =>
        match outer with
        | [] => buildStack bytes [] pending ((u.tree.tag, node) :: done)
        | parent :: outer' =>
          buildStack bytes ({ parent with done := (u.tree.tag, node) :: parent.done } :: outer')
            pending done
termination_by unfinishedSize stack + 2 * ParseTree.sizes pending
decreasing_by
  · have := ParseTree.sizes_filter_le ParseTree.isKept t.children
    simp only [unfinishedSize, Unfinished.start, ParseTree.kept, ParseTree.sizes,
      ParseTree.size_eq]
    omega
  · have := ParseTree.sizes_filter_le ParseTree.isKept t.children
    simp only [unfinishedSize, Unfinished.start, ParseTree.kept, _h, ParseTree.sizes,
      ParseTree.size_eq]
    omega
  · simp only [unfinishedSize, _h, ParseTree.sizes]
    omega
  · simp only [unfinishedSize, _h, ParseTree.sizes]
    omega

/-- The typed trees of the kept children of a root. -/
def buildChildren (bytes : List UInt8) (root : ParseTree) : Except Fault (List Node) :=
  (buildStack bytes [] root.kept []).map fun parts => parts.map Prod.snd

mutual

/-- The typed tree of a concrete tree, by recursion. -/
def build (bytes : List UInt8) : ParseTree → Except Fault Node
  | .mk tag children =>
    match buildKept bytes children with
    | .error e => .error e
    | .ok parts => assemble bytes (.mk tag children) parts

/-- The typed trees of the children that are kept, with their tags. -/
def buildKept (bytes : List UInt8) : List ParseTree → Except Fault (List (Tag × Node))
  | [] => .ok []
  | t :: rest =>
    if t.isKept then
      match build bytes t with
      | .error e => .error e
      | .ok node =>
        match buildKept bytes rest with
        | .error e => .error e
        | .ok parts => .ok ((t.tag, node) :: parts)
    else buildKept bytes rest

end

/-- What the first error of a text is. -/
inductive Mistake where
  /-- Something of this type is missing. -/
  | missing (type : String)
  /-- This is not expected; empty if there is nothing to show. -/
  | unexpected (snippet : String)
  deriving DecidableEq, Repr

/-- Why a text has no typed tree. -/
inductive ParseError where
  /-- The text has surrogates. -/
  | encoding (e : Utf8.EncodeError)
  /-- The text is not Solidity, and the first mistake is known. -/
  | mistake (loc : Location) (m : Mistake)
  /-- The text is not Solidity. -/
  | invalid
  /-- The concrete tree uses a kind of its own as a type, and a part of it is asked for. -/
  | fault (f : Fault)
  deriving DecidableEq, Repr

/-- The mistake in words. -/
def Mistake.message : Mistake → String
  | .missing type => "missing '" ++ type ++ "'"
  | .unexpected snippet =>
    if snippet.isEmpty then "unexpected input" else "unexpected '" ++ snippet ++ "'"

/-- The error in words. -/
def ParseError.message : ParseError → String
  | .encoding e => e.message
  | .mistake loc m =>
    "Syntax error at line " ++ toString loc.line ++ ", column " ++ toString loc.column ++ ": "
      ++ m.message
  | .invalid => "Syntax error in contract source"
  | .fault f => f.message

/-- The longest snippet that is shown. -/
def snippetLimit : Nat := 40

/-- The beginning of the first line of a text without the blanks around the text. -/
def snippet (text : String) : String :=
  String.ofList (((stripString text).toList.takeWhile (· != '\n')).take snippetLimit)

/-- Explains a concrete tree with errors. -/
def explain (bytes : List UInt8) (root : ParseTree) : ParseError :=
  match root.firstError with
  | none => .invalid
  | some e =>
    .mistake (e.tag.location bytes)
      (if e.tag.missing then .missing e.tag.type else .unexpected (snippet (e.tag.text bytes)))

/-- The typed tree of a text with this concrete tree. -/
def parseSource (source : Text) (root : ParseTree) : Except ParseError Node :=
  match Utf8.encode source with
  | .error e => .error (.encoding e)
  | .ok bytes =>
    if root.tag.hasError then .error (explain bytes root)
    else
      match buildChildren bytes root with
      | .error f => .error (.fault f)
      | .ok children =>
        .ok (.mk Kind.sourceUnit ⟨1, 0⟩ source.toStringLossy children .sourceUnit)

end ContractAudit
