import ContractAudit.Text.CodePoint

/-!
# Blanks

The blank characters of Unicode, with the four separators `U+001C` to `U+001F`. Stripping removes
blanks at both ends; the words of a text are its longest runs without blanks.
-/

namespace ContractAudit

/-- The ranges of blank characters, in ascending order, both ends included. -/
def blankRanges : List (Nat × Nat) :=
  [(0x09, 0x0D), (0x1C, 0x20), (0x85, 0x85), (0xA0, 0xA0), (0x1680, 0x1680), (0x2000, 0x200A),
   (0x2028, 0x2029), (0x202F, 0x202F), (0x205F, 0x205F), (0x3000, 0x3000)]

/-- Whether a number lies in one of several ranges. -/
def inRanges (ranges : List (Nat × Nat)) (n : Nat) : Bool :=
  ranges.any fun r => r.1 ≤ n && n ≤ r.2

/-- Whether a character is a blank. -/
def isBlank (c : Char) : Bool :=
  inRanges blankRanges c.toNat

/-- Whether a code point is a blank. -/
def CodePoint.isBlank : CodePoint → Bool
  | .scalar c => ContractAudit.isBlank c
  | .surrogate _ => false

/-- A list without the elements of a class at its two ends. -/
def stripBy {α : Type} (p : α → Bool) (xs : List α) : List α :=
  ((xs.dropWhile p).reverse.dropWhile p).reverse

/-- The text without the blanks at its ends. -/
def Text.strip (t : Text) : Text :=
  stripBy CodePoint.isBlank t

/-- The string without the blanks at its ends. -/
def stripString (s : String) : String :=
  String.ofList (stripBy isBlank s.toList)

/-- The longest runs of characters that are not blanks, in order. -/
def wordsOf : List Char → List (List Char)
  | [] => []
  | c :: cs =>
    if isBlank c then wordsOf cs
    else
      match cs with
      | [] => [[c]]
      | d :: _ =>
        if isBlank d then [c] :: wordsOf cs
        else
          match wordsOf cs with
          | [] => [[c]]
          | w :: ws => (c :: w) :: ws

/-- The words of a string with one blank between neighbours. -/
def normalizeBlanks (s : String) : String :=
  String.ofList ([' '].intercalate (wordsOf s.toList))

end ContractAudit
