import ContractAudit.Decimal.Shortest

/-!
# Time of day

The time in seconds is a whole number or a floating-point number, and stays whole as long as only
whole numbers are added. Time stamps are in milliseconds, cut towards zero; the product is exact
for whole numbers and rounded once for others.
-/

namespace ContractAudit

/-- A number of seconds. -/
inductive Seconds where
  | whole (n : Int)
  | fractional (x : Float)

namespace Seconds

/-- The number as a floating-point number. -/
def toFloat : Seconds → Float
  | .whole n => Decimal.toFloat (n < 0) n.natAbs 0
  | .fractional x => x

/-- The sum of two numbers of seconds. -/
def add : Seconds → Seconds → Seconds
  | .whole a, .whole b => .whole (a + b)
  | a, b => .fractional (a.toFloat + b.toFloat)

/-- The exact value; numbers that are not finite count as zero. -/
def toRat : Seconds → Rat
  | .whole n => n
  | .fractional x => (Decimal.toRat? x).getD 0

/-- The time stamp in milliseconds. -/
def millis : Seconds → Int
  | .whole n => n * 1000
  | .fractional x => (Decimal.truncate? (x * 1000.0)).getD 0

/-- The number as it is shown. -/
def shown : Seconds → String
  | .whole n => toString n
  | .fractional x => Decimal.render Decimal.shown x

end Seconds

end ContractAudit
