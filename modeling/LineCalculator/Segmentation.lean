import LineCalculator.Decimal
import LineCalculator.Representable
import LineCalculator.Text.Blank
import LineCalculator.Token

/-!
# Segmentation

The lexemes of a line, all at once and without a scanner.  The line is cut between
any two neighbouring characters that are not both digits; the pieces that are blanks
are dropped and every other piece is a lexeme at the column of its first character.

This says what a line holds, for scanning to be compared with.  The value of a digit
run is taken in full here, whatever its size, and then either fits or does not.
-/

namespace LineCalculator.Segmentation

/-- The pieces of a line, each character with its column. -/
def pieces (line : List Char) : List (List (Char × Column)) :=
  line.zipIdx.splitBy fun before after => before.1.isDigit && after.1.isDigit

/-- The token of a digit run, by its full value. -/
def numeral (run : List Char) : Token :=
  if (Decimal.value run : Int) ≤ greatestInteger then .number (Decimal.value run) else .oversized

/-- The token of a piece that begins with a character that is not blank. -/
def token (first : Char) (more : List Char) : Token :=
  if first.isDigit then numeral (first :: more)
  else (Operator.ofSymbol? first).elim (.invalid first) .operator

/-- The lexeme of a piece, if the piece is no blank. -/
def lexeme? : List (Char × Column) → Option Lexeme
  | [] => none
  | (first, column) :: more =>
      if Text.isBlank first then none
      else some ⟨token first (more.map Prod.fst), column⟩

/-- The lexemes of a line, without its end. -/
def lexemes (line : List Char) : List Lexeme := (pieces line).filterMap lexeme?

/-- The lexemes of a line followed by its end for ever, numbered from zero. -/
def stream (line : List Char) (index : Nat) : Lexeme :=
  (lexemes line)[index]?.getD ⟨.endOfLine, line.length⟩

end LineCalculator.Segmentation
