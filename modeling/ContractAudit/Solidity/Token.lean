import ContractAudit.Text.Utf8

/-!
# Tokens of Solidity

A Solidity text is cut into words, numbers, strings and symbols, each as long as it can be. Blanks
and comments separate tokens and leave none. A pragma is one token, from its word up to the
semicolon, because what stands in it follows no rule of the language.
-/

namespace ContractAudit.Solidity

/-- The kinds of tokens. -/
inductive TokenKind where
  | word
  | number
  | quoted
  | pragma
  | symbol
  deriving DecidableEq, Repr

/-- A token with the bytes that it covers. -/
structure Token where
  kind : TokenKind
  text : String
  start : Nat
  stop : Nat
  deriving DecidableEq, Repr

/-- Whether a character separates tokens. -/
def isSpace (c : Char) : Bool :=
  c == ' ' || ('\t' ≤ c && c ≤ '\r') || c == '\u00a0' || c == '\u200b' || c == '\u2060'
    || c == '\ufeff'

/-- Whether a character can start a word. -/
def isWordStart (c : Char) : Bool :=
  c.isAlpha || c == '_' || c == '$'

/-- Whether a character can go on a word. -/
def isWordPart (c : Char) : Bool :=
  isWordStart c || c.isDigit

/-- The symbols, longer ones before those that begin them. -/
def symbols : List String :=
  ["<<=", ">>=", "==", "!=", "<=", ">=", "<<", ">>", "&&", "||", "**", "++", "--", "+=", "-=", "*=",
   "/=", "%=", "&=", "|=", "^=", "=>", "->", ":=", "(", ")", "[", "]", "\x7b", "\x7d", ";", ",", ".",
   ":", "?", "=", "<", ">", "+", "-", "*", "/", "%", "!", "~", "&", "|", "^"]

/-- How many characters of the rest of a block comment come before its end, which is included. -/
def blockCommentLength? : List Char → Option Nat
  | '*' :: '/' :: _ => some 2
  | _ :: cs => (blockCommentLength? cs).map (· + 1)
  | [] => none

/-- How many characters follow the opening quote of a string, the closing one included. A string
stays on its line, and a backslash takes the next character with it. -/
def quotedLength? (quote : Char) : List Char → Option Nat
  | '\\' :: _ :: cs => (quotedLength? quote cs).map (· + 2)
  | c :: cs =>
    if c == quote then some 1
    else if c == '\n' || c == '\r' then none
    else (quotedLength? quote cs).map (· + 1)
  | [] => none

/-- How many characters form a run of digits with underscores between them. -/
def digitsLength (isDigit : Char → Bool) (cs : List Char) : Nat :=
  (cs.takeWhile fun c => isDigit c || c == '_').length

/-- Whether a character is a hexadecimal digit. -/
def isHexDigit (c : Char) : Bool :=
  c.isDigit || ('a' ≤ c && c ≤ 'f') || ('A' ≤ c && c ≤ 'F')

/-- How many characters form the exponent of a number. -/
def exponentLength : List Char → Nat
  | e :: cs =>
    if e == 'e' || e == 'E' then
      match cs with
      | '-' :: c :: rest => if c.isDigit then 2 + digitsLength Char.isDigit (c :: rest) else 0
      | c :: rest => if c.isDigit then 1 + digitsLength Char.isDigit (c :: rest) else 0
      | [] => 0
    else 0
  | [] => 0

/-- How many characters form the fraction of a number. -/
def fractionLength : List Char → Nat
  | '.' :: c :: rest => if c.isDigit then 1 + digitsLength Char.isDigit (c :: rest) else 0
  | _ => 0

/-- How many characters form the number at the front. -/
def numberLength (cs : List Char) : Nat :=
  match cs with
  | '0' :: 'x' :: c :: rest =>
    if isHexDigit c then 2 + digitsLength isHexDigit (c :: rest) else 1
  | _ =>
    let whole := digitsLength Char.isDigit cs
    let fraction := fractionLength (cs.drop whole)
    whole + fraction + exponentLength (cs.drop (whole + fraction))

/-- What stands at the front of a text, and how many characters after the first belong to it; no
kind is for what leaves no token. -/
def classify? (c : Char) (cs : List Char) : Option (Option TokenKind × Nat) :=
  if isSpace c then some (none, 0)
  else if isWordStart c then
    let more := cs.takeWhile isWordPart
    if String.ofList (c :: more) == "pragma" then
      some (some .pragma, (cs.takeWhile (· != ';')).length)
    else some (some .word, more.length)
  else if c.isDigit || (c == '.' && (cs.head?.map Char.isDigit).getD false) then
    some (some .number, numberLength (c :: cs) - 1)
  else if c == '"' || c == '\'' then (quotedLength? c cs).map fun n => (some .quoted, n)
  else
    match c, cs with
    | '/', '/' :: rest =>
      some (none, 1 + (rest.takeWhile fun d => d != '\n' && d != '\r').length)
    | '/', '*' :: rest => (blockCommentLength? rest).map fun n => (none, n + 1)
    | _, _ =>
      (symbols.find? fun s => s.toList.isPrefixOf (c :: cs)).map fun s =>
        (some .symbol, s.length - 1)

/-- How many bytes a list of characters takes. -/
def byteLength (cs : List Char) : Nat :=
  cs.foldl (fun n c => n + c.utf8Size) 0

/-- The tokens of a text that starts at an offset. -/
def tokensFrom? (offset : Nat) : List Char → Option (List Token)
  | [] => some []
  | c :: cs =>
    match classify? c cs with
    | none => none
    | some (kind, more) =>
      let piece := c :: cs.take more
      let stop := offset + byteLength piece
      match tokensFrom? stop (cs.drop more), kind with
      | none, _ => none
      | some rest, none => some rest
      | some rest, some kind => some (⟨kind, String.ofList piece, offset, stop⟩ :: rest)
termination_by cs => cs.length
decreasing_by
  simp only [List.length_cons, List.length_drop]
  omega

/-- The tokens of a text. -/
def tokens? (text : String) : Option (List Token) :=
  tokensFrom? 0 text.toList

end ContractAudit.Solidity
