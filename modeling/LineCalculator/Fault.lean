import LineCalculator.Token

/-!
# Faults

A line that has no value has exactly one fault, the first that reading it from left
to right meets.  Every fault but that of the empty line carries the column of its
cause: the token that should not be there, the literal, or the operator whose
result does not exist or does not fit.
-/

namespace LineCalculator

/-- The reasons for which a line has no value. -/
inductive Fault where
  | emptyLine
  | unexpected (expected : Category) (found : Token) (column : Column)
  | divisionByZero (column : Column)
  | literalTooLarge (column : Column)
  | overflow (column : Column)
  deriving DecidableEq

namespace Fault

/-- A fault of the grammar, as opposed to one of the arithmetic. -/
def isSyntactic : Fault → Bool
  | unexpected _ _ _ => true
  | _ => false

/-- The sentence that reports a fault. -/
def message : Fault → String
  | emptyLine => "empty input detected, please enter an expression"
  | unexpected expected found column =>
      "unexpected token " ++ found.quotation ++ " at " ++ column.label ++
        ", expected " ++ expected.quotation
  | divisionByZero column => "division by zero at " ++ column.label
  | literalTooLarge column =>
      "number literal at " ++ column.label ++ " does not fit in a 64-bit integer"
  | overflow column => "arithmetic overflow at " ++ column.label

/-- A column as a field of a listed fault. -/
def columnField (column : Column) : String :=
  "position: Position(" ++ Decimal.ofNat column ++ ")"

/-- A fault written out with its fields, columns counted from zero. -/
def listing : Fault → String
  | emptyLine => "EmptyInput"
  | unexpected expected found column =>
      "UnexpectedToken \x7b expected: " ++ expected.listing ++ ", found: " ++ found.listing ++
        ", " ++ columnField column ++ " \x7d"
  | divisionByZero column => "DivisionByZero \x7b " ++ columnField column ++ " \x7d"
  | literalTooLarge column => "LiteralTooLarge \x7b " ++ columnField column ++ " \x7d"
  | overflow column => "Overflow \x7b " ++ columnField column ++ " \x7d"

end Fault

end LineCalculator
