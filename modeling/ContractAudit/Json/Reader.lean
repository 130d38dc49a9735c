import ContractAudit.Json.Basic
import ContractAudit.Decimal.Shortest
import ContractAudit.Text.Encoding

/-!
# Reading JSON

The reader keeps the containers that are still open on a stack and goes through the text once.
Every step takes at least one code point, so it ends. Beyond the standard it takes `NaN`,
`Infinity` and `-Infinity`, and a surrogate may stand alone. A name that comes again replaces the
value and keeps the place. How many containers may be open at once is up to the caller, as it hangs
on what the machine has left when the reader is called.
-/

namespace ContractAudit

namespace Json

/-- What is wrong at a place of a text. -/
inductive Problem where
  | expectingValue
  | expectingName
  | expectingColon
  | expectingComma
  | unterminatedString
  | controlCharacter
  | invalidEscape
  | invalidUnicodeEscape
  | extraData
  | byteOrderMark
  deriving DecidableEq, Repr

/-- The problem in words. -/
def Problem.message : Problem → String
  | .expectingValue => "Expecting value"
  | .expectingName => "Expecting property name enclosed in double quotes"
  | .expectingColon => "Expecting ':' delimiter"
  | .expectingComma => "Expecting ',' delimiter"
  | .unterminatedString => "Unterminated string starting at"
  | .controlCharacter => "Invalid control character at"
  | .invalidEscape => "Invalid \\escape"
  | .invalidUnicodeEscape => "Invalid \\uXXXX escape"
  | .extraData => "Extra data"
  | .byteOrderMark => "Unexpected UTF-8 BOM (decode using utf-8-sig)"

/-- Why a text cannot be read. -/
inductive ReadError where
  /-- The text is malformed at a position. -/
  | malformed (problem : Problem) (position : Nat)
  /-- A whole number has too many digits. -/
  | tooManyDigits (count : Nat)
  /-- Containers are nested too deeply. -/
  | tooDeep
  deriving DecidableEq, Repr

/-- The greatest number of digits of a whole number. -/
def digitLimit : Nat := 4300

/-- The line, from one, and the column, from one, of a position. -/
def lineColumn (t : Text) (position : Nat) : Nat × Nat :=
  let before := t.take position
  let line := before.countP (·.isChar '\n') + 1
  (line, (before.reverse.takeWhile fun p => !p.isChar '\n').length + 1)

/-- The error in words, for the text that was read. -/
def ReadError.message (t : Text) : ReadError → String
  | .malformed problem position =>
    let (line, column) := lineColumn t position
    problem.message ++ ": line " ++ toString line ++ " column " ++ toString column ++ " (char "
      ++ toString position ++ ")"
  | .tooManyDigits count =>
    "Exceeds the limit (" ++ toString digitLimit
      ++ " digits) for integer string conversion: value has " ++ toString count
      ++ " digits; use sys.set_int_max_str_digits() to increase the limit"
  | .tooDeep => "maximum recursion depth exceeded"

/-- A place in a text: the position and what follows it. -/
structure Cursor where
  position : Nat
  rest : Text

/-- Whether a code point is a blank between tokens. -/
def isSpace (p : CodePoint) : Bool :=
  p.isChar ' ' || p.isChar '\t' || p.isChar '\n' || p.isChar '\r'

/-- The place after the blanks. -/
def skipSpace (position : Nat) : Text → Cursor
  | [] => ⟨position, []⟩
  | p :: rest => if isSpace p then skipSpace (position + 1) rest else ⟨position, p :: rest⟩

/-- Skipping blanks leaves no more than there was. -/
theorem skipSpace_length_le (position : Nat) (t : Text) :
    (skipSpace position t).rest.length ≤ t.length := by
  induction t generalizing position with
  | nil => simp [skipSpace]
  | cons p rest ih =>
    unfold skipSpace
    split
    · exact Nat.le_succ_of_le (ih _)
    · exact Nat.le_refl _

/-- The value of a decimal digit. -/
def decimalDigit? : CodePoint → Option Nat
  | .scalar c => if '0' ≤ c ∧ c ≤ '9' then some (c.toNat - '0'.toNat) else none
  | .surrogate _ => none

/-- Whether a code point is a decimal digit. -/
def isDigit (p : CodePoint) : Bool :=
  (decimalDigit? p).isSome

/-- The number that decimal digits spell, after the digits of `start`. -/
def digitsValue (start : Nat) (ds : Text) : Nat :=
  ds.foldl (fun n p => n * 10 + (decimalDigit? p).getD 0) start

/-- The value of a hexadecimal digit. -/
def hexDigit? : CodePoint → Option Nat
  | .scalar c =>
    if '0' ≤ c ∧ c ≤ '9' then some (c.toNat - '0'.toNat)
    else if 'a' ≤ c ∧ c ≤ 'f' then some (c.toNat - 'a'.toNat + 10)
    else if 'A' ≤ c ∧ c ≤ 'F' then some (c.toNat - 'A'.toNat + 10)
    else none
  | .surrogate _ => none

/-- The value of four hexadecimal digits. -/
def hexValue? (a b c d : CodePoint) : Option Nat := do
  return ((← hexDigit? a) * 16 + (← hexDigit? b)) * 256 + (← hexDigit? c) * 16 + (← hexDigit? d)

/-- The code point of a one-letter escape. -/
def simpleEscape? : CodePoint → Option CodePoint
  | .scalar '"' => some (.scalar '"')
  | .scalar '\\' => some (.scalar '\\')
  | .scalar '/' => some (.scalar '/')
  | .scalar 'b' => some (.ofNatD 0x08)
  | .scalar 'f' => some (.ofNatD 0x0C)
  | .scalar 'n' => some (.scalar '\n')
  | .scalar 'r' => some (.scalar '\r')
  | .scalar 't' => some (.scalar '\t')
  | _ => none

/-- The low surrogate escape at the start of a text, if there is room for one and for the quote
after it: its value, or none if its digits are bad, and what follows it. -/
def lowEscape? : Text → Option (Option Nat × Text)
  | .scalar '\\' :: .scalar 'u' :: a :: b :: c :: d :: p :: rest =>
    some (hexValue? a b c d, p :: rest)
  | _ => none

/-- Reads the four digits of an escape, which begins at `position` with a backslash; a high
surrogate takes a low one that follows. -/
def readUnicodeEscape (position : Nat) : Text → Except ReadError (CodePoint × Cursor)
  | a :: b :: c :: d :: p :: rest =>
    match hexValue? a b c d with
    | none => .error (.malformed .invalidUnicodeEscape (position + 1))
    | some n =>
      let alone : CodePoint × Cursor := (.ofNatD n, ⟨position + 6, p :: rest⟩)
      if BodyEncoding.isHigh n then
        match lowEscape? (p :: rest) with
        | none => .ok alone
        | some (none, _) => .error (.malformed .invalidUnicodeEscape (position + 7))
        | some (some m, rest') =>
          if BodyEncoding.isLow m then
            .ok (BodyEncoding.joinSurrogates n m, ⟨position + 12, rest'⟩)
          else .ok alone
      else .ok alone
  | _ => .error (.malformed .invalidUnicodeEscape (position + 1))

/-- An escape that may be a low surrogate takes something off the text. -/
theorem lowEscape?_length {t rest : Text} {v : Option Nat} (h : lowEscape? t = some (v, rest)) :
    rest.length < t.length := by
  unfold lowEscape? at h
  split at h
  · simp only [Option.some.injEq, Prod.mk.injEq] at h
    simp only [← h.2, List.length_cons]
    omega
  · simp at h

/-- An escaped code point takes something off the text. -/
theorem readUnicodeEscape_length {position : Nat} {t : Text} {p : CodePoint} {c : Cursor}
    (h : readUnicodeEscape position t = .ok (p, c)) : c.rest.length < t.length := by
  unfold readUnicodeEscape at h
  split at h
  · split at h
    · simp at h
    · split at h
      · split at h
        · simp only [Except.ok.injEq, Prod.mk.injEq] at h
          simp only [← h.2, List.length_cons]
          omega
        · simp at h
        · rename_i rest' heq
          have := lowEscape?_length heq
          simp only [List.length_cons] at this
          split at h
          · simp only [Except.ok.injEq, Prod.mk.injEq] at h
            simp only [← h.2, List.length_cons]
            omega
          · simp only [Except.ok.injEq, Prod.mk.injEq] at h
            simp only [← h.2, List.length_cons]
            omega
      · simp only [Except.ok.injEq, Prod.mk.injEq] at h
        simp only [← h.2, List.length_cons]
        omega
  · simp at h

/-- Reads the rest of a string whose opening quote stands at `start`; `done` holds the code points
read so far, latest first. -/
def readString (start : Nat) (done : Text) (position : Nat) :
    Text → Except ReadError (Text × Cursor)
  | [] => .error (.malformed .unterminatedString start)
  | p :: rest =>
    if p.isChar '"' then .ok (done.reverse, ⟨position + 1, rest⟩)
    else if p.isChar '\\' then
      match rest with
      | [] => .error (.malformed .unterminatedString start)
      | e :: rest' =>
        if e.isChar 'u' then
          match h : readUnicodeEscape position rest' with
          | .error err => .error err
          | .ok (q, c) =>
            have := readUnicodeEscape_length h
            readString start (q :: done) c.position c.rest
        else
          match simpleEscape? e with
          | some q => readString start (q :: done) (position + 2) rest'
          | none => .error (.malformed .invalidEscape position)
    else if p.value ≤ 0x1F then .error (.malformed .controlCharacter position)
    else readString start (p :: done) (position + 1) rest
termination_by t => t.length

/-- A string takes something off the text, if only its closing quote. -/
theorem readString_length {start position : Nat} {done t s : Text} {c : Cursor}
    (h : readString start done position t = .ok (s, c)) : c.rest.length < t.length := by
  fun_induction readString start done position t with
  | case1 => simp at h
  | case2 =>
    simp only [Except.ok.injEq, Prod.mk.injEq] at h
    simp [← h.2]
  | case3 => simp at h
  | case4 => simp at h
  | case5 _ _ _ _ _ _ _ _ _ _ _ hlt ih =>
    have := ih h
    simp only [List.length_cons]
    omega
  | case6 _ _ _ _ _ _ _ _ _ _ ih =>
    have := ih h
    simp only [List.length_cons]
    omega
  | case7 => simp at h
  | case8 => simp at h
  | case9 _ _ _ _ _ _ _ ih =>
    have := ih h
    simp only [List.length_cons]
    omega

/-- The words that are values. -/
def literals : List (String × Json) :=
  [("null", .null), ("true", .bool true), ("false", .bool false),
   ("NaN", .float (Float.ofBits 0x7FF8000000000000)),
   ("Infinity", .float (Float.ofBits 0x7FF0000000000000)),
   ("-Infinity", .float (Float.ofBits 0xFFF0000000000000))]

/-- The value word at the start of a text, and the number of its characters. -/
def literal? (t : Text) : Option (Json × Nat) :=
  (literals.find? fun (word, _) => t.startsWith word).map fun (word, v) => (v, word.length)

/-- The digits before the point: a single zero, or digits that do not begin with one. -/
def wholeDigits : Text → Text
  | [] => []
  | p :: rest => if p.isChar '0' then [p] else (p :: rest).takeWhile isDigit

/-- The number of code points of a point with digits after it, or zero. -/
def fractionLength : Text → Nat
  | .scalar '.' :: rest =>
    let n := (rest.takeWhile isDigit).length
    if n = 0 then 0 else n + 1
  | _ => 0

/-- The number of code points of an exponent sign, or zero. -/
def signLength : Text → Nat
  | .scalar '+' :: _ => 1
  | .scalar '-' :: _ => 1
  | _ => 0

/-- The number of code points of an exponent, or zero if no digit follows the mark. -/
def exponentLength : Text → Nat
  | p :: rest =>
    if p.isChar 'e' || p.isChar 'E' then
      let sign := signLength rest
      let n := ((rest.drop sign).takeWhile isDigit).length
      if n = 0 then 0 else 1 + sign + n
    else 0
  | [] => 0

/-- The power of ten of an exponent part. -/
def exponentValue (part : Text) : Int :=
  let body := part.drop 1
  let n : Int := digitsValue 0 (body.drop (signLength body))
  if body.head? == some (.scalar '-') then -n else n

/-- The number of code points of a minus sign, or zero. -/
def minusLength : Text → Nat
  | .scalar '-' :: _ => 1
  | _ => 0

/-- The parts of a number. -/
structure Numeral where
  negative : Bool
  /-- Digits before the point. -/
  whole : Text
  /-- Digits after the point. -/
  places : Text
  /-- Power of ten of the exponent. -/
  power : Int
  /-- Whether there is neither a point nor an exponent. -/
  isWhole : Bool
  /-- The number of code points. -/
  size : Nat

/-- The parts of the number at the start of a text. -/
def numeral? (t : Text) : Option Numeral :=
  let minus := minusLength t
  let whole := wholeDigits (t.drop minus)
  let afterWhole := t.drop (minus + whole.length)
  let fraction := fractionLength afterWhole
  let exponent := exponentLength (afterWhole.drop fraction)
  if whole.isEmpty then none
  else
    some
      { negative := minus == 1
        whole := whole
        places := (afterWhole.take fraction).drop 1
        power := exponentValue ((afterWhole.drop fraction).take exponent)
        isWhole := fraction == 0 && exponent == 0
        size := minus + whole.length + fraction + exponent }

/-- The value of a number. -/
def Numeral.value (n : Numeral) : Except ReadError Json :=
  if n.isWhole then
    if digitLimit < n.whole.length then .error (.tooManyDigits n.whole.length)
    else
      let v : Int := digitsValue 0 n.whole
      .ok (.int (if n.negative then -v else v))
  else
    .ok (.float (Decimal.toFloat n.negative (digitsValue (digitsValue 0 n.whole) n.places)
      (n.power - n.places.length)))

/-- Reads a value that is not a container: the value and the place after it. -/
def readScalar (position : Nat) (t : Text) : Except ReadError (Json × Cursor) :=
  match t with
  | [] => .error (.malformed .expectingValue position)
  | p :: rest =>
    if p.isChar '"' then
      match readString position [] (position + 1) rest with
      | .ok (s, c) => .ok (.str s, c)
      | .error e => .error e
    else
      match literal? (p :: rest) with
      | some (v, n) => .ok (v, ⟨position + n, (p :: rest).drop n⟩)
      | none =>
        match numeral? (p :: rest) with
        | some n =>
          match n.value with
          | .ok v => .ok (v, ⟨position + n.size, (p :: rest).drop n.size⟩)
          | .error e => .error e
        | none => .error (.malformed .expectingValue position)

/-- No literal is empty. -/
theorem literal?_pos {t : Text} {v : Json} {n : Nat} (h : literal? t = some (v, n)) : 0 < n := by
  simp only [literal?, Option.map_eq_some_iff] at h
  obtain ⟨⟨word, w⟩, hf, he⟩ := h
  have hm := List.mem_of_find?_eq_some hf
  simp only [literals, List.mem_cons, Prod.mk.injEq, List.not_mem_nil, or_false] at hm
  simp only [Prod.mk.injEq] at he
  rw [← he.2]
  rcases hm with h | h | h | h | h | h <;> (rw [h.1]; decide)

/-- No numeral is empty. -/
theorem numeral?_size_pos {t : Text} {n : Numeral} (h : numeral? t = some n) : 0 < n.size := by
  simp only [numeral?, Option.ite_none_left_eq_some, Option.some.injEq, List.isEmpty_iff] at h
  have := List.length_pos_iff.2 h.1
  rw [← h.2]
  show 0 < _ + _ + _ + _
  omega

/-- A scalar takes something off the text. -/
theorem readScalar_length {position : Nat} {t : Text} {v : Json} {c : Cursor}
    (h : readScalar position t = .ok (v, c)) : c.rest.length < t.length := by
  unfold readScalar at h
  split at h
  · simp at h
  · split at h
    · split at h
      · rename_i heq
        have := readString_length heq
        simp only [Except.ok.injEq, Prod.mk.injEq] at h
        rw [← h.2]
        simp only [List.length_cons]
        omega
      · simp at h
    · split at h
      · rename_i heq
        have := literal?_pos heq
        simp only [Except.ok.injEq, Prod.mk.injEq] at h
        rw [← h.2]
        simp only [List.length_drop, List.length_cons]
        omega
      · split at h
        · rename_i heq
          have := numeral?_size_pos heq
          split at h
          · simp only [Except.ok.injEq, Prod.mk.injEq] at h
            rw [← h.2]
            simp only [List.length_drop, List.length_cons]
            omega
          · simp at h
        · simp at h

/-- A container that is still open. -/
inductive Frame where
  /-- An array with its items so far, latest first. -/
  | array (items : List Json)
  /-- An object with its members so far and the name whose value comes next. -/
  | object (members : List (Text × Json)) (name : Text)

/-- What stands at the place of the reader. -/
inductive Expect where
  /-- A value. -/
  | value
  /-- The name of a member of an object with these members so far. -/
  | name (members : List (Text × Json))
  /-- What follows a value that has been read. -/
  | after (value : Json)

/-- Reads on from a place, with the open containers, innermost first; at most `limit` of them may be
open at once. The result is the outermost value and the place after it. -/
def readFrom (limit : Nat) (stack : List Frame) (expect : Expect) (position : Nat) (t : Text) :
    Except ReadError (Json × Cursor) :=
  match expect with
  | .value =>
    match t with
    | [] => .error (.malformed .expectingValue position)
    | p :: rest =>
      if p.isChar '\x7b' then
        if limit ≤ stack.length then .error .tooDeep
        else
          have := skipSpace_length_le (position + 1) rest
          match h : (skipSpace (position + 1) rest).rest with
          | [] => .error (.malformed .expectingName (skipSpace (position + 1) rest).position)
          | q :: rest' =>
            if q.isChar '\x7d' then
              readFrom limit stack (.after (.object []))
                ((skipSpace (position + 1) rest).position + 1) rest'
            else
              readFrom limit stack (.name []) (skipSpace (position + 1) rest).position (q :: rest')
      else if p.isChar '[' then
        if limit ≤ stack.length then .error .tooDeep
        else
          have := skipSpace_length_le (position + 1) rest
          match h : (skipSpace (position + 1) rest).rest with
          | [] => .error (.malformed .expectingValue (skipSpace (position + 1) rest).position)
          | q :: rest' =>
            if q.isChar ']' then
              readFrom limit stack (.after (.array []))
                ((skipSpace (position + 1) rest).position + 1) rest'
            else
              readFrom limit (.array [] :: stack) .value (skipSpace (position + 1) rest).position
                (q :: rest')
      else
        match h : readScalar position (p :: rest) with
        | .error e => .error e
        | .ok (v, c) =>
          have := readScalar_length h
          readFrom limit stack (.after v) c.position c.rest
  | .name members =>
    match t with
    | [] => .error (.malformed .expectingName position)
    | p :: rest =>
      if p.isChar '"' then
        match h : readString position [] (position + 1) rest with
        | .error e => .error e
        | .ok (name, c) =>
          have := readString_length h
          have := skipSpace_length_le c.position c.rest
          match h' : (skipSpace c.position c.rest).rest with
          | [] => .error (.malformed .expectingColon (skipSpace c.position c.rest).position)
          | q :: rest' =>
            if q.isChar ':' then
              have := skipSpace_length_le ((skipSpace c.position c.rest).position + 1) rest'
              readFrom limit (.object members name :: stack) .value
                (skipSpace ((skipSpace c.position c.rest).position + 1) rest').position
                (skipSpace ((skipSpace c.position c.rest).position + 1) rest').rest
            else .error (.malformed .expectingColon (skipSpace c.position c.rest).position)
      else .error (.malformed .expectingName position)
  | .after v =>
    match stack with
    | [] => .ok (v, ⟨position, t⟩)
    | frame :: outer =>
      have := skipSpace_length_le position t
      match _h : (skipSpace position t).rest with
      | [] => .error (.malformed .expectingComma (skipSpace position t).position)
      | p :: rest =>
        match frame with
        | .array items =>
          if p.isChar ']' then
            readFrom limit outer (.after (.array (v :: items).reverse))
              ((skipSpace position t).position + 1) rest
          else if p.isChar ',' then
            have := skipSpace_length_le ((skipSpace position t).position + 1) rest
            readFrom limit (.array (v :: items) :: outer) .value
              (skipSpace ((skipSpace position t).position + 1) rest).position
              (skipSpace ((skipSpace position t).position + 1) rest).rest
          else .error (.malformed .expectingComma (skipSpace position t).position)
        | .object members name =>
          if p.isChar '\x7d' then
            readFrom limit outer (.after (.object (upsert name v members)))
              ((skipSpace position t).position + 1) rest
          else if p.isChar ',' then
            have := skipSpace_length_le ((skipSpace position t).position + 1) rest
            readFrom limit outer (.name (upsert name v members))
              (skipSpace ((skipSpace position t).position + 1) rest).position
              (skipSpace ((skipSpace position t).position + 1) rest).rest
          else .error (.malformed .expectingComma (skipSpace position t).position)
termination_by t.length
decreasing_by all_goals (simp_all only [List.length_cons]; try omega)

/-- Reads a whole text in which at most `limit` containers are open at once. -/
def read (limit : Nat) (t : Text) : Except ReadError Json :=
  let start := skipSpace 0 t
  match readFrom limit [] .value start.position start.rest with
  | .error e => .error e
  | .ok (v, c) =>
    let stop := skipSpace c.position c.rest
    if stop.rest.isEmpty then .ok v else .error (.malformed .extraData stop.position)

/-- Reads a whole text that must not begin with a byte order mark. -/
def readUnmarked (limit : Nat) (t : Text) : Except ReadError Json :=
  if t.head? == some (.scalar '\uFEFF') then .error (.malformed .byteOrderMark 0) else read limit t

/-- Why a body cannot be read. -/
inductive BodyError where
  /-- The bytes are no text. -/
  | encoding (e : Utf8.DecodeError)
  /-- The text is no JSON value. -/
  | text (t : Text) (e : ReadError)

/-- The error in words. -/
def BodyError.message : BodyError → String
  | .encoding e => e.message
  | .text t e => e.message t

/-- Reads the bytes of a body. -/
def readBody (limit : Nat) (bytes : List UInt8) : Except BodyError Json :=
  match BodyEncoding.decodeBody bytes with
  | .error e => .error (.encoding e)
  | .ok t =>
    match read limit t with
    | .error e => .error (.text t e)
    | .ok v => .ok v

end Json

end ContractAudit
