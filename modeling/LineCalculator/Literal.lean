import LineCalculator.Decimal
import LineCalculator.Representable

/-!
# Literals

A maximal run of decimal digits is one literal, however long it is.  Its value is
accumulated digit by digit from the left and given up as soon as it no longer
fits, so the numbers held while reading a run stay small.
-/

namespace LineCalculator.Literal

/-- The number that a decimal digit stands for. -/
def digitValue (c : Char) : Nat := c.toNat - '0'.toNat

/-- Append one digit to the value of the digits before it. -/
def extend (value : Int) (digit : Char) : Option Int :=
  (narrow? (value * 10)).bind fun shifted => narrow? (shifted + digitValue digit)

/-- The value of a digit run, unless it grows too large. -/
def value? (run : List Char) : Option Int := run.foldlM extend 0

end LineCalculator.Literal
