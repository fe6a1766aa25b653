import LineCalculator.Decimal

/-!
# Columns

A column counts the characters of a line that stand before a place in it.  Readers
count from one, so the label of a column shows one more.
-/

namespace LineCalculator

/-- The number of characters before a place in a line. -/
abbrev Column := Nat

/-- The words that name a column to a reader. -/
def Column.label (column : Column) : String := "column " ++ Decimal.ofNat (column + 1)

end LineCalculator
