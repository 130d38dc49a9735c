import ContractAudit.Text.Utf8

/-!
# Percent encoding

Bytes outside a safe set are written as a percent sign and two hexadecimal digits. Forms write a
blank as a plus sign. Decoding leaves a percent sign alone that no two digits follow.
-/

namespace ContractAudit

namespace Percent

/-- A byte as a percent sign and two upper-case digits. -/
def escape (b : UInt8) : List Char :=
  '%' :: (Utf8.hex 2 b.toNat).toList.map Char.toUpper

/-- Whether a byte is a letter, a digit or one of `_.-~`. -/
def isUnreserved (b : UInt8) : Bool :=
  let c := Char.ofNat b.toNat
  c.isAlphanum || c == '_' || c == '.' || c == '-' || c == '~'

/-- Bytes with those outside a safe set escaped. -/
def encodeBytes (safe : UInt8 → Bool) (bytes : List UInt8) : String :=
  String.ofList (bytes.flatMap fun b =>
    if b.toNat < 0x80 && safe b then [Char.ofNat b.toNat] else escape b)

/-- A byte of a form value: unreserved characters stand, a blank is a plus sign. -/
def formByte (b : UInt8) : List Char :=
  if b = 0x20 then ['+']
  else if b.toNat < 0x80 && isUnreserved b then [Char.ofNat b.toNat]
  else escape b

/-- A form value, or the first run of surrogates in it. -/
def encodeForm (t : Text) : Except Utf8.EncodeError String :=
  (Utf8.encode t).map fun bytes => String.ofList (bytes.flatMap formByte)

/-- A field of a form: a plain name and a value. -/
def formField (field : String × Text) : Except Utf8.EncodeError String :=
  (encodeForm field.2).map fun value => field.1 ++ "=" ++ value

/-- A form, or the first run of surrogates in the first value that has one. -/
def form (fields : List (String × Text)) : Except Utf8.EncodeError String :=
  (fields.mapM formField).map "&".intercalate

/-- The value of a hexadecimal digit. -/
def digit? (b : UInt8) : Option Nat :=
  let n := b.toNat
  if 0x30 ≤ n ∧ n ≤ 0x39 then some (n - 0x30)
  else if 0x41 ≤ n ∧ n ≤ 0x46 then some (n - 0x41 + 10)
  else if 0x61 ≤ n ∧ n ≤ 0x66 then some (n - 0x61 + 10)
  else none

/-- The bytes with every escape replaced by the byte it spells. -/
def decodeBytes : List UInt8 → List UInt8
  | 0x25 :: a :: b :: rest =>
    match digit? a, digit? b with
    | some x, some y => UInt8.ofNat (x * 16 + y) :: decodeBytes rest
    | _, _ => 0x25 :: decodeBytes (a :: b :: rest)
  | b :: rest => b :: decodeBytes rest
  | [] => []

/-- The string with its escapes replaced, read as UTF-8 with replacement characters. -/
def decode (s : String) : String :=
  Utf8.decodeLossy (decodeBytes (Utf8.encodeString s))

end Percent

end ContractAudit
