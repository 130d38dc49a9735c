import ContractAudit.Text.CodePoint

/-!
# UTF-8

Encoding refuses surrogates and names the first run of them. Decoding works one character at a
time: `readChar` takes the longest valid beginning, so an invalid part is a *maximal subpart*. The
lenient decoder writes one replacement character for each invalid part; the strict one reports the
part and, on request, lets encoded surrogates through.
-/

namespace ContractAudit

namespace Utf8

/-- A continuation byte with six payload bits. -/
def tail (n : Nat) : UInt8 :=
  UInt8.ofNat (0x80 + n % 64)

/-- The bytes of a scalar value. -/
def encodeChar (c : Char) : List UInt8 :=
  let n := c.toNat
  if n < 0x80 then [UInt8.ofNat n]
  else if n < 0x800 then [UInt8.ofNat (0xC0 + n / 64), tail n]
  else if n < 0x10000 then [UInt8.ofNat (0xE0 + n / 4096), tail (n / 64), tail n]
  else [UInt8.ofNat (0xF0 + n / 262144), tail (n / 4096), tail (n / 64), tail n]

/-- The bytes of a string. -/
def encodeString (s : String) : List UInt8 :=
  s.toList.flatMap encodeChar

/-- The first run of surrogates in a text that cannot be encoded. -/
structure EncodeError where
  /-- Position of the first surrogate of the run, in code points. -/
  start : Nat
  /-- Length of the run, at least one. -/
  count : Nat
  /-- The first surrogate of the run. -/
  first : Fin 2048
  deriving DecidableEq, Repr

/-- A lower-case hexadecimal number of a least width. -/
def hex (width n : Nat) : String :=
  let digits := Nat.toDigits 16 n
  String.ofList (List.replicate (width - digits.length) '0' ++ digits)

/-- What is wrong with the text, in words. -/
def EncodeError.message (e : EncodeError) : String :=
  if e.count = 1 then
    "'utf-8' codec can't encode character '\\u" ++ hex 4 (0xD800 + e.first.val) ++ "' in position "
      ++ toString e.start ++ ": surrogates not allowed"
  else
    "'utf-8' codec can't encode characters in position " ++ toString e.start ++ "-"
      ++ toString (e.start + e.count - 1) ++ ": surrogates not allowed"

/-- Whether a code point is a surrogate. -/
def isSurrogate : CodePoint → Bool
  | .scalar _ => false
  | .surrogate _ => true

/-- The first run of surrogates, counted from a given position. -/
def firstSurrogates? (position : Nat) : Text → Option EncodeError
  | [] => none
  | .scalar _ :: rest => firstSurrogates? (position + 1) rest
  | .surrogate i :: rest => some ⟨position, 1 + (rest.takeWhile isSurrogate).length, i⟩

/-- The bytes of a text, or the first run of surrogates in it. -/
def encode (t : Text) : Except EncodeError (List UInt8) :=
  match firstSurrogates? 0 t with
  | some e => .error e
  | none => .ok ((t.filterMap CodePoint.toChar?).flatMap encodeChar)

/-- Why a byte sequence is not UTF-8. -/
inductive Fault where
  /-- No character begins with this byte. -/
  | invalidStart
  /-- A byte that should continue a character does not. -/
  | invalidContinuation
  /-- The bytes end inside a character. -/
  | unexpectedEnd
  deriving DecidableEq, Repr

/-- The reason in words. -/
def Fault.message : Fault → String
  | .invalidStart => "invalid start byte"
  | .invalidContinuation => "invalid continuation byte"
  | .unexpectedEnd => "unexpected end of data"

/-- The number of continuation bytes after a lead byte, and the range of the first of them. -/
def lead? (b : Nat) : Option (Nat × Nat × Nat) :=
  if 0xC2 ≤ b ∧ b ≤ 0xDF then some (1, 0x80, 0xBF)
  else if b = 0xE0 then some (2, 0xA0, 0xBF)
  else if b = 0xED then some (2, 0x80, 0x9F)
  else if 0xE1 ≤ b ∧ b ≤ 0xEF then some (2, 0x80, 0xBF)
  else if b = 0xF0 then some (3, 0x90, 0xBF)
  else if 0xF1 ≤ b ∧ b ≤ 0xF3 then some (3, 0x80, 0xBF)
  else if b = 0xF4 then some (3, 0x80, 0x8F)
  else none

/-- Reads continuation bytes: `count` are owed, the next one lies between `low` and `high`, and
`value` holds the bits read so far. Gives the number of bytes used and the value, or the fault. -/
def readTails : Nat → Nat → Nat → Nat → List UInt8 → Nat × Except Fault Nat
  | 0, _, _, value, _ => (0, .ok value)
  | _ + 1, _, _, _, [] => (0, .error .unexpectedEnd)
  | count + 1, low, high, value, b :: rest =>
    if low ≤ b.toNat ∧ b.toNat ≤ high then
      let r := readTails count 0x80 0xBF (value * 64 + b.toNat % 64) rest
      (r.1 + 1, r.2)
    else (0, .error .invalidContinuation)

/-- Reads one character from a byte and the bytes after it: how many of the latter belong to it,
and the character, or the fault of the part. -/
def readChar (b : UInt8) (rest : List UInt8) : Nat × Except Fault Char :=
  if b.toNat < 0x80 then (0, .ok (Char.ofNat b.toNat))
  else
    match lead? b.toNat with
    | none => (0, .error .invalidStart)
    | some (count, low, high) =>
      let bits := if count = 1 then b.toNat % 32 else if count = 2 then b.toNat % 16 else b.toNat % 8
      match readTails count low high bits rest with
      | (n, .ok v) => (n, .ok (Char.ofNat v))
      | (n, .error f) => (n, .error f)

/-- The characters of a byte sequence, in reverse behind `done`, with one replacement character
for each invalid part. -/
def decodeLossyAux (done : List Char) : List UInt8 → List Char
  | [] => done.reverse
  | b :: rest =>
    if b.toNat < 0x80 then decodeLossyAux (Char.ofNat b.toNat :: done) rest
    else
      match readChar b rest with
      | (n, .ok c) => decodeLossyAux (c :: done) (rest.drop n)
      | (n, .error _) => decodeLossyAux ('�' :: done) (rest.drop n)
termination_by bytes => bytes.length
decreasing_by all_goals simp only [List.length_drop, List.length_cons]; omega

/-- The string of a byte sequence, with one replacement character for each invalid part. -/
def decodeLossy (bytes : List UInt8) : String :=
  String.ofList (decodeLossyAux [] bytes)

/-- The part at which strict decoding stopped. -/
structure DecodeError where
  /-- Name of the encoding. -/
  encoding : String
  /-- Position of the first byte of the part. -/
  start : Nat
  /-- The bytes of the part, at least one. -/
  part : List UInt8
  /-- The reason in words. -/
  reason : String
  deriving DecidableEq, Repr

/-- What is wrong with the bytes, in words. -/
def DecodeError.message (e : DecodeError) : String :=
  match e.part with
  | [b] =>
    "'" ++ e.encoding ++ "' codec can't decode byte 0x" ++ hex 2 b.toNat ++ " in position "
      ++ toString e.start ++ ": " ++ e.reason
  | part =>
    "'" ++ e.encoding ++ "' codec can't decode bytes in position " ++ toString e.start ++ "-"
      ++ toString (e.start + part.length - 1) ++ ": " ++ e.reason

/-- The surrogate that three bytes encode, if they do. -/
def encodedSurrogate? (a : UInt8) : List UInt8 → Option (Fin 2048)
  | b :: c :: _ =>
    if a = 0xED ∧ 0xA0 ≤ b.toNat ∧ b.toNat ≤ 0xBF ∧ 0x80 ≤ c.toNat ∧ c.toNat ≤ 0xBF then
      some (Fin.ofNat 2048 ((b.toNat - 0xA0) * 64 + (c.toNat - 0x80)))
    else none
  | _ => none

/-- Strict decoding that lets encoded surrogates through; `position` counts the bytes before. -/
def decodeAux (position : Nat) (done : Text) : List UInt8 → Except DecodeError Text
  | [] => .ok done.reverse
  | b :: rest =>
    match readChar b rest with
    | (n, .ok c) => decodeAux (position + n + 1) (.scalar c :: done) (rest.drop n)
    | (n, .error f) =>
      match encodedSurrogate? b rest with
      | some i => decodeAux (position + 3) (.surrogate i :: done) (rest.drop 2)
      | none => .error ⟨"utf-8", position, b :: rest.take n, f.message⟩
termination_by bytes => bytes.length
decreasing_by all_goals simp only [List.length_drop, List.length_cons]; omega

/-- The text of a byte sequence, encoded surrogates included. -/
def decode (bytes : List UInt8) : Except DecodeError Text :=
  decodeAux 0 [] bytes

end Utf8

end ContractAudit
