import ContractAudit.Text.Utf8

/-!
# Text encodings of JSON bodies

A JSON body may be UTF-8, UTF-16 or UTF-32. A byte order mark decides; without one the places of
zero bytes among the first four decide, since a JSON text begins with two ASCII characters.
Surrogates that stand alone are let through in every encoding.
-/

namespace ContractAudit

/-- An encoding of a JSON body. -/
inductive BodyEncoding where
  | utf8
  | utf16 (bigEndian : Bool)
  | utf32 (bigEndian : Bool)
  deriving DecidableEq, Repr

namespace BodyEncoding

/-- The encoding of a body and the number of bytes of its byte order mark. -/
def detect : List UInt8 → BodyEncoding × Nat
  | 0x00 :: 0x00 :: 0xFE :: 0xFF :: _ => (.utf32 true, 4)
  | 0xFF :: 0xFE :: 0x00 :: 0x00 :: _ => (.utf32 false, 4)
  | 0xFE :: 0xFF :: _ => (.utf16 true, 2)
  | 0xFF :: 0xFE :: _ => (.utf16 false, 2)
  | 0xEF :: 0xBB :: 0xBF :: _ => (.utf8, 3)
  | a :: b :: c :: d :: _ =>
    if a = 0 then (if b = 0 then .utf32 true else .utf16 true, 0)
    else if b = 0 then (if c = 0 ∧ d = 0 then .utf32 false else .utf16 false, 0)
    else (.utf8, 0)
  | [a, b] =>
    if a = 0 then (.utf16 true, 0) else if b = 0 then (.utf16 false, 0) else (.utf8, 0)
  | _ => (.utf8, 0)

/-- The code point that a high and a low surrogate spell together. -/
def joinSurrogates (high low : Nat) : CodePoint :=
  .ofNatD (0x10000 + (high - 0xD800) * 0x400 + (low - 0xDC00))

/-- Whether a number is a high surrogate. -/
def isHigh (n : Nat) : Bool :=
  0xD800 ≤ n && n ≤ 0xDBFF

/-- Whether a number is a low surrogate. -/
def isLow (n : Nat) : Bool :=
  0xDC00 ≤ n && n ≤ 0xDFFF

/-- A code unit of two bytes. -/
def unit16 (bigEndian : Bool) (a b : UInt8) : Nat :=
  if bigEndian then a.toNat * 256 + b.toNat else b.toNat * 256 + a.toNat

/-- Decodes UTF-16 from a byte position. -/
def decode16 (bigEndian : Bool) (position : Nat) (done : Text) :
    List UInt8 → Except Utf8.DecodeError Text
  | [] => .ok done.reverse
  | [a] => .error ⟨if bigEndian then "utf-16-be" else "utf-16-le", position, [a], "truncated data"⟩
  | a :: b :: rest =>
    let u := unit16 bigEndian a b
    match rest with
    | c :: d :: rest' =>
      let v := unit16 bigEndian c d
      if isHigh u && isLow v then
        decode16 bigEndian (position + 4) (joinSurrogates u v :: done) rest'
      else decode16 bigEndian (position + 2) (.ofNatD u :: done) (c :: d :: rest')
    | rest => decode16 bigEndian (position + 2) (.ofNatD u :: done) rest
termination_by bytes => bytes.length

/-- Decodes UTF-32 from a byte position. -/
def decode32 (bigEndian : Bool) (position : Nat) (done : Text) :
    List UInt8 → Except Utf8.DecodeError Text
  | [] => .ok done.reverse
  | a :: b :: c :: d :: rest =>
    let n :=
      if bigEndian then ((a.toNat * 256 + b.toNat) * 256 + c.toNat) * 256 + d.toNat
      else ((d.toNat * 256 + c.toNat) * 256 + b.toNat) * 256 + a.toNat
    match CodePoint.ofNat? n with
    | some p => decode32 bigEndian (position + 4) (p :: done) rest
    | none =>
      .error ⟨if bigEndian then "utf-32-be" else "utf-32-le", position, [a, b, c, d],
        "code point not in range(0x110000)"⟩
  | part =>
    .error ⟨if bigEndian then "utf-32-be" else "utf-32-le", position, part, "truncated data"⟩

/-- The text of a JSON body. -/
def decodeBody (bytes : List UInt8) : Except Utf8.DecodeError Text :=
  match detect bytes with
  | (.utf8, n) => Utf8.decode (bytes.drop n)
  | (.utf16 bigEndian, n) => decode16 bigEndian n [] (bytes.drop n)
  | (.utf32 bigEndian, n) => decode32 bigEndian n [] (bytes.drop n)

end BodyEncoding

end ContractAudit
