/-!
# Shortest decimals

A binary floating-point number is shown with the fewest decimal digits that read back as the same
number; of several such decimals the nearest one is taken. The number is decoded into
`mantissa * 2 ^ exponent`, and all comparisons are exact comparisons of natural numbers.
-/

namespace ContractAudit

namespace Decimal

/-- A finite number without its sign: `mantissa * 2 ^ exponent`. The numbers that round to it reach
half a unit up, and half a unit down, or a quarter if it is the least of its binade. -/
structure Binary where
  mantissa : Nat
  exponent : Int
  leastOfBinade : Bool
  deriving Repr

/-- What the bits of a floating-point number stand for. -/
inductive Decoded where
  | finite (negative : Bool) (value : Binary)
  | infinite (negative : Bool)
  | nan
  deriving Repr

/-- The weight of the sign bit. -/
def signWeight : Nat := 0x8000000000000000

/-- The number of fractions that the field of a fraction can hold. -/
def fractionCount : Nat := 0x10000000000000

/-- Decodes a floating-point number. -/
def decode (x : Float) : Decoded :=
  let bits := x.toBits.toNat
  let negative := bits / signWeight == 1
  let field : Nat := bits / fractionCount % 2048
  let fraction : Nat := bits % fractionCount
  if field = 2047 then if fraction = 0 then .infinite negative else .nan
  else if field = 0 then .finite negative ⟨fraction, -1074, false⟩
  else .finite negative ⟨fraction + fractionCount, (field : Int) - 1075, fraction == 0 && 1 < field⟩

/-- A power of a natural number with an integer exponent, as numerator and denominator. -/
def ratio (base : Nat) (e : Int) : Nat × Nat :=
  (base.pow e.toNat, base.pow (-e).toNat)

/-- Decimal digits, most significant first, as a number, and the power of ten of the point: the
value is `0.digits * 10 ^ point`. -/
structure Digits where
  digits : List Nat
  point : Int
  deriving Repr

/-- The digits of a natural number, most significant first. -/
def digitsOf (n : Nat) : List Nat :=
  (Nat.toDigits 10 n).map fun c => c.toNat - '0'.toNat

/-- The least `k` from a start on with `num / den < 10 ^ k`, searched in a number of steps. -/
def magnitude (num den : Nat) (k : Int) : Nat → Int
  | 0 => k
  | steps + 1 =>
    let (a, b) := ratio 10 k
    if num * b < a * den then k else magnitude num den (k + 1) steps

/-- A decimal of `count` digits that reads back as the number, if there is one: the nearer of the
two neighbours on that grid, the even one in a tie. -/
def onGrid? (b : Binary) (point : Int) (count : Nat) : Option Digits :=
  let (two, twoDen) := ratio 2 (b.exponent - 2)
  let (ten, tenDen) := ratio 10 (point - count)
  let scale (x : Nat) := x * two * tenDen
  let grid (d : Nat) := d * ten * twoDen
  let value := scale (4 * b.mantissa)
  let low := scale (4 * b.mantissa - (if b.leastOfBinade then 1 else 2))
  let high := scale (4 * b.mantissa + 2)
  let even := b.mantissa % 2 == 0
  let reads (d : Nat) :=
    let g := grid d
    0 < d && (if even then low ≤ g && g ≤ high else low < g && g < high)
  let below := value / (ten * twoDen)
  let above := below + 1
  let pick (d : Nat) : Option Digits :=
    let ds := digitsOf d
    some ⟨ds, point + (ds.length : Int) - count⟩
  match reads below, reads above with
  | true, true =>
    let down := value - grid below
    let up := grid above - value
    if down < up then pick below
    else if up < down then pick above
    else if below % 2 == 0 then pick below else pick above
  | true, false => pick below
  | false, true => pick above
  | false, false => none

/-- The shortest decimal of a positive finite number below a power of ten. -/
def shortestBelow (b : Binary) (point : Int) : Digits :=
  match (List.range 17).findSome? fun i => onGrid? b point (i + 1) with
  | some d => { d with digits := (d.digits.reverse.dropWhile (· == 0)).reverse }
  | none => ⟨[0], 1⟩

/-- The shortest decimal of a positive finite number. -/
def shortest (b : Binary) : Digits :=
  let (two, twoDen) := ratio 2 b.exponent
  shortestBelow b (magnitude (b.mantissa * two) twoDen (-324) 700)

/-- How decimals are laid out. -/
structure Layout where
  /-- Least power of ten of the point that is written positionally. -/
  leastPoint : Int
  /-- Greatest power of ten of the point that is written positionally. -/
  greatestPoint : Int
  /-- What follows a whole number written positionally. -/
  wholeSuffix : String
  /-- Least number of digits of an exponent. -/
  exponentWidth : Nat
  nan : String
  infinity : String

/-- Digits as a string. -/
def showDigits (ds : List Nat) : String :=
  String.ofList (ds.map fun d => Char.ofNat (d + '0'.toNat))

/-- A positive decimal in a layout. -/
def Digits.render (l : Layout) (d : Digits) : String :=
  let n := d.digits.length
  if l.leastPoint ≤ d.point ∧ d.point ≤ l.greatestPoint then
    if d.point ≤ 0 then
      "0." ++ showDigits (List.replicate (-d.point).toNat 0 ++ d.digits)
    else if (n : Int) ≤ d.point then
      showDigits (d.digits ++ List.replicate (d.point - n).toNat 0) ++ l.wholeSuffix
    else
      showDigits (d.digits.take d.point.toNat) ++ "." ++ showDigits (d.digits.drop d.point.toNat)
  else
    let e := d.point - 1
    let fraction := if n ≤ 1 then "" else "." ++ showDigits (d.digits.drop 1)
    let size := toString e.natAbs
    showDigits (d.digits.take 1) ++ fraction ++ (if e < 0 then "e-" else "e+")
      ++ String.ofList (List.replicate (l.exponentWidth - size.length) '0') ++ size

/-- The text of a floating-point number in a layout. -/
def render (l : Layout) (x : Float) : String :=
  match decode x with
  | .nan => l.nan
  | .infinite negative => (if negative then "-" else "") ++ l.infinity
  | .finite negative b =>
    (if negative then "-" else "")
      ++ (if b.mantissa = 0 then "0" ++ l.wholeSuffix else (shortest b).render l)

/-- Positional from `0.0001` up to below `10 ^ 16`, whole numbers with `.0`, exponents with a sign
and two digits at least. -/
def shown : Layout :=
  { leastPoint := -3, greatestPoint := 16, wholeSuffix := ".0", exponentWidth := 2, nan := "nan",
    infinity := "inf" }

/-- The same layout with the spellings of JSON's extension for numbers that are not finite. -/
def jsonLayout : Layout :=
  { shown with nan := "NaN", infinity := "Infinity" }

/-- The whole part of a finite number, cut towards zero. -/
def truncate? (x : Float) : Option Int :=
  match decode x with
  | .finite negative b =>
    let (two, twoDen) := ratio 2 b.exponent
    let n : Int := (b.mantissa * two / twoDen : Nat)
    some (if negative then -n else n)
  | _ => none

/-- The exact value of a finite number. -/
def toRat? (x : Float) : Option Rat :=
  match decode x with
  | .finite negative b =>
    let (two, twoDen) := ratio 2 b.exponent
    let r : Rat := mkRat (b.mantissa * two : Nat) twoDen
    some (if negative then -r else r)
  | _ => none

/-- The floating-point number nearest to `digits * 10 ^ exponent`. Exponents beyond the range of
the format are cut before the power is computed. -/
def toFloat (negative : Bool) (digits : Nat) (exponent : Int) : Float :=
  let size : Int := (Nat.toDigits 10 digits).length
  let x :=
    if digits = 0 then 0.0
    else if 400 < exponent + size then Float.ofBits 0x7FF0000000000000
    else if exponent + size < -400 then 0.0
    else if exponent < 0 then Float.ofScientific digits true (-exponent).toNat
    else Float.ofScientific digits false exponent.toNat
  if negative then -x else x

end Decimal

end ContractAudit
