import ContractAudit.Ast.Basic
import ContractAudit.Text.Blank

/-!
# Serialization

The form of a tree without its places: a leaf is its kind with its text in parentheses, blanks
normalised; an inner node is its kind with its children in brackets, commas between them.
`serialize` works off a stack of pieces; `form` is the same by recursion.
-/

namespace ContractAudit

namespace Node

/-- A piece of output that is still to come. -/
inductive Piece where
  | text (s : String)
  | tree (n : Node)

/-- A leaf as text. -/
def leafForm (n : Node) : String :=
  n.kind ++ "(" ++ normalizeBlanks n.text ++ ")"

/-- Trees with commas between them, and then what follows. -/
def commaPieces : List Node → List Piece → List Piece
  | [], rest => rest
  | [n], rest => .tree n :: rest
  | n :: more, rest => .tree n :: .text "," :: commaPieces more rest

/-- What the pieces on a stack still need. -/
def pieceSize : Piece → Nat
  | .text _ => 1
  | .tree n => 4 * n.size - 1

/-- What a stack of pieces still needs. -/
def piecesSize : List Piece → Nat
  | [] => 0
  | p :: rest => pieceSize p + piecesSize rest

/-- The pieces for a list of nodes weigh at most four times its size. -/
theorem piecesSize_commaPieces_le (ns : List Node) (rest : List Piece) :
    piecesSize (commaPieces ns rest) ≤ 4 * sizes ns + piecesSize rest := by
  induction ns with
  | nil => simp [commaPieces, sizes]
  | cons n more ih =>
    have := size_eq n
    cases more with
    | nil =>
      simp only [commaPieces, piecesSize, pieceSize, sizes]
      omega
    | cons m more =>
      simp only [commaPieces, piecesSize, pieceSize, sizes] at *
      omega

/-- The texts of the pieces on a stack, top first, after those in `done`, latest first. -/
def serializeStack (done : List String) : List Piece → List String
  | [] => done.reverse
  | .text s :: rest => serializeStack (s :: done) rest
  | .tree n :: rest =>
    if n.children.isEmpty then serializeStack (n.leafForm :: done) rest
    else
      serializeStack done
        (.text (n.kind ++ "[") :: commaPieces n.children (.text "]" :: rest))
termination_by stack => piecesSize stack
decreasing_by
  · simp [piecesSize, pieceSize]
  · simp only [piecesSize, pieceSize, size_eq]
    omega
  · have h := piecesSize_commaPieces_le n.children (.text "]" :: rest)
    simp only [piecesSize, pieceSize, size_eq] at *
    omega

/-- The form of a tree without its places. -/
def serialize (n : Node) : String :=
  String.join (serializeStack [] [.tree n])

mutual

/-- The same form by recursion. -/
def form : Node → String
  | mk kind loc text [] detail => leafForm (mk kind loc text [] detail)
  | mk kind _ _ (child :: more) _ => kind ++ "[" ++ forms (child :: more) ++ "]"

/-- The forms of several trees with commas between them. -/
def forms : List Node → String
  | [] => ""
  | [n] => n.form
  | n :: more => n.form ++ "," ++ forms more

end

end Node

end ContractAudit
