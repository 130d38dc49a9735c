/-!
# Code points and text

A JSON document can spell one half of a surrogate pair on its own, and such a half is carried
through messages and refused only when the text is encoded. A `Text` is therefore a list of code
points of either sort. Text without surrogates is the same thing as a `String`.

Main statements: `Text.ofString_append` and `Text.toString?_ofString`.
-/

namespace ContractAudit

/-- A Unicode code point: a scalar value, or half of a surrogate pair that stands alone. -/
inductive CodePoint where
  /-- A character. -/
  | scalar (c : Char)
  /-- The surrogate `U+D800 + index`. -/
  | surrogate (index : Fin 2048)
  deriving DecidableEq, Repr

namespace CodePoint

/-- The number of a code point. -/
def value : CodePoint → Nat
  | .scalar c => c.toNat
  | .surrogate i => 0xD800 + i.val

/-- The code point of a number, if it is at most `U+10FFFF`. -/
def ofNat? (n : Nat) : Option CodePoint :=
  if h : n.isValidChar then some (.scalar (Char.ofNatAux n h))
  else if 0xD800 ≤ n then
    if h : n - 0xD800 < 2048 then some (.surrogate ⟨n - 0xD800, h⟩) else none
  else none

/-- The code point of a number, with the replacement character for numbers that have none. -/
def ofNatD (n : Nat) : CodePoint :=
  (ofNat? n).getD (.scalar '�')

/-- Whether the code point is this character. -/
def isChar (p : CodePoint) (c : Char) : Bool :=
  p == .scalar c

/-- The character, if the code point is one. -/
def toChar? : CodePoint → Option Char
  | .scalar c => some c
  | .surrogate _ => none

end CodePoint

/-- A sequence of code points. -/
abbrev Text := List CodePoint

namespace Text

/-- The text of a string. -/
def ofString (s : String) : Text :=
  s.toList.map .scalar

instance : Coe String Text := ⟨ofString⟩

/-- The string that a text spells, if it has no surrogates. -/
def toString? (t : Text) : Option String :=
  (t.mapM CodePoint.toChar?).map String.ofList

/-- The string that a text spells, with the replacement character for each surrogate. -/
def toStringLossy (t : Text) : String :=
  String.ofList (t.map fun p => p.toChar?.getD '�')

/-- Whether a text begins with a string. -/
def startsWith (t : Text) (s : String) : Bool :=
  (ofString s).isPrefixOf t

/-- Whether a text ends with a string. -/
def endsWith (t : Text) (s : String) : Bool :=
  (ofString s).isSuffixOf t

/-- Several texts with a separator between neighbours. -/
def joinWith (separator : Text) (parts : List Text) : Text :=
  (parts.intersperse separator).flatten

/-- Code points of a concatenation are those of the parts, one after the other. -/
theorem ofString_append (a b : String) : ofString (a ++ b) = ofString a ++ ofString b := by
  simp [ofString]

/-- A string comes back from its code points. -/
theorem toString?_ofString (s : String) : (ofString s).toString? = some s := by
  have h : ∀ cs : List Char, (cs.map CodePoint.scalar).mapM CodePoint.toChar? = some cs := by
    intro cs
    induction cs with
    | nil => rfl
    | cons c cs ih => simp [List.mapM_cons, CodePoint.toChar?, ih]
  simp [toString?, ofString, h]

end Text

end ContractAudit
