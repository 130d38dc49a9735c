import ContractAudit.Decimal.Shortest
import ContractAudit.Text.Blank
import ContractAudit.Validation

/-!
# Values of settings

A setting comes as text from the environment or as a value from the caller. Each reader takes what
stands for its sort without loss: a whole number may be given as text, as a floating-point number
without a fraction, or as a truth value.
-/

namespace ContractAudit

namespace SettingValue

/-- Whether a code point is white space around a number. -/
def isPadding (p : CodePoint) : Bool :=
  p.isBlank && !(0x1C ≤ p.value && p.value ≤ 0x1F)

/-- The text without the white space around it. -/
def trim (t : Text) : Text :=
  stripBy isPadding t

/-- Whether a code point is a decimal digit. -/
def isDigit : CodePoint → Bool
  | .scalar c => c.isDigit
  | .surrogate _ => false

/-- Whether a text is one or more decimal digits. -/
def isDigits (t : Text) : Bool :=
  !t.isEmpty && t.all isDigit

/-- The number that decimal digits spell. -/
def digitsValue (t : Text) : Nat :=
  t.foldl (fun n p => n * 10 + (p.value - 0x30)) 0

/-- The sign of a number, true if it is negative, and the rest. -/
def splitSign : Text → Bool × Text
  | p :: rest =>
    if p.isChar '-' then (true, rest) else if p.isChar '+' then (false, rest) else (false, p :: rest)
  | [] => (false, [])

/-- A text up to the first point and after it, if it has one. -/
def splitPoint (t : Text) : Text × Option Text :=
  let front := t.takeWhile fun p => !p.isChar '.'
  match t.drop front.length with
  | _ :: rest => (front, some rest)
  | [] => (front, none)

/-- Whether an underscore stands at an end or beside another one. -/
def hasStrayUnderscore : Text → Bool
  | [] => true
  | [p] => p.isChar '_'
  | p :: q :: rest =>
    if p.isChar '_' then true
    else if q.isChar '_' then hasStrayUnderscore rest
    else hasStrayUnderscore (q :: rest)

/-- The digits without the underscores between them, if none of these is out of place. -/
def withoutUnderscores? (t : Text) : Option Text :=
  if hasStrayUnderscore t then none else some (t.filter fun p => !p.isChar '_')

/-- The whole number that a text spells; a fraction of zeros is allowed. -/
def intOfText? (t : Text) : Option Int :=
  let (negative, body) := splitSign (trim t)
  let (front, fraction) := splitPoint body
  if (fraction.map fun f => f.all (·.isChar '0')).getD true then
    match withoutUnderscores? front with
    | some digits =>
      if isDigits digits then
        some (if negative then -(digitsValue digits : Int) else digitsValue digits)
      else none
    | none => none
  else none

/-- The lower-case form of plain letters. -/
def plainLower (t : Text) : String :=
  t.toStringLossy.toLower

/-- The exponent after its mark. -/
def exponent? (t : Text) : Option Int :=
  let (negative, digits) := splitSign t
  if isDigits digits then
    some (if negative then -(digitsValue digits : Int) else digitsValue digits)
  else none

/-- The floating-point number that a text of digits, a point and an exponent spells. -/
def decimal? (negative : Bool) (t : Text) : Option Float :=
  let isMark (p : CodePoint) := p.isChar 'e' || p.isChar 'E'
  let mantissa := t.takeWhile fun p => !isMark p
  let (front, fraction) := splitPoint mantissa
  let back := fraction.getD []
  let exponent : Option Int :=
    match t.drop mantissa.length with
    | [] => some 0
    | _ :: rest => exponent? rest
  if isDigits (front ++ back) then
    exponent.map fun e => Decimal.toFloat negative (digitsValue (front ++ back)) (e - back.length)
  else none

/-- The floating-point number that a text spells without underscores. -/
def plainFloat? (t : Text) : Option Float :=
  let (negative, body) := splitSign t
  let word := plainLower body
  let sign : Float := if negative then -1.0 else 1.0
  if word == "inf" || word == "infinity" then some (sign * (1.0 / 0.0))
  else if word == "nan" then some (0.0 / 0.0)
  else decimal? negative body

/-- The floating-point number that a text spells. -/
def floatOfText? (t : Text) : Option Float :=
  (plainFloat? (trim t)).or ((withoutUnderscores? t).bind plainFloat?)

/-- The words for true. -/
def trueWords : List String := ["1", "t", "y", "on", "yes", "true"]

/-- The words for false. -/
def falseWords : List String := ["0", "f", "n", "no", "off", "false"]

/-- A string. -/
def readText : Json → Except Defect Text
  | .str t => if t.toString?.isSome then .ok t else .error .notUnicode
  | _ => .error .notString

/-- A whole number from a floating-point number. -/
def intOfFloat (x : Float) : Except Defect Int :=
  if x.isNaN || x.isInf then .error .notFiniteInt
  else
    match Decimal.truncate? x with
    | some n =>
      if Decimal.toRat? x == some (n : Rat) then
        if -0x8000000000000000 < n ∧ n < 0x8000000000000000 then .ok n else .error .intSize
      else .error .fractionalInt
    | none => .error .notFiniteInt

/-- A whole number. -/
def readInt : Json → Except Defect Int
  | .int n => .ok n
  | .bool b => .ok (if b then 1 else 0)
  | .float x => intOfFloat x
  | .str t =>
    match intOfText? t with
    | some n => .ok n
    | none => .error .unreadableInt
  | _ => .error .notInt

/-- A floating-point number. -/
def readFloat : Json → Except Defect Float
  | .int n => .ok (Decimal.toFloat (n < 0) n.natAbs 0)
  | .bool b => .ok (if b then 1.0 else 0.0)
  | .float x => .ok x
  | .str t =>
    match floatOfText? t with
    | some x => .ok x
    | none => .error .unreadableFloat
  | _ => .error .notFloat

/-- A truth value from a whole number. -/
def boolOfInt (n : Int) : Except Defect Bool :=
  if n == 1 then .ok true else if n == 0 then .ok false else .error .unreadableBool

/-- A truth value. -/
def readBool : Json → Except Defect Bool
  | .bool b => .ok b
  | .int n => boolOfInt n
  | .float x =>
    match intOfFloat x with
    | .ok n => boolOfInt n
    | .error _ => .error .notBool
  | .str t =>
    if trueWords.contains (plainLower t) then .ok true
    else if falseWords.contains (plainLower t) then .ok false
    else .error .unreadableBool
  | _ => .error .notBool

/-- A value, or nothing for null. -/
def readOptional {α : Type} (read : Json → Except Defect α) : Json → Except Defect (Option α)
  | .null => .ok none
  | v => (read v).map some

/-- A value that passes a test, or the reason why it does not. -/
def checked {α : Type} (read : Json → Except Defect α) (ok : α → Bool) (reason : String) (v : Json) :
    Except Defect α :=
  match read v with
  | .ok a => if ok a then .ok a else .error (.refused reason)
  | .error d => .error d

/-- A list of strings, with every item that is none. -/
def readTexts (path : List PathStep) : Json → Except (List Problem) (List Text)
  | .array items =>
    let results := items.zipIdx.map fun (v, i) =>
      (readText v).mapError fun d => Problem.mk (path ++ [PathStep.item i]) d
    let problems := results.filterMap fun
      | .error p => some p
      | .ok _ => none
    if problems.isEmpty then
      .ok (results.filterMap fun
        | .ok t => some t
        | .error _ => none)
    else .error problems
  | _ => .error [⟨path, .notList⟩]

end SettingValue

end ContractAudit
