/-!
# Input line

Without an expression on the command line one line is read from the input.  It ends
at the first line feed or where the input ends; what follows is never looked at.
The line feed and one carriage return right before it do not belong to the line.
-/

namespace LineCalculator.Console

/-- The byte that ends a line. -/
def lineFeed : UInt8 := 10

/-- The byte that may stand right before the end of a line. -/
def carriageReturn : UInt8 := 13

/-- The bytes of the first line, without its terminator. -/
def lineBytes (input : List UInt8) : List UInt8 :=
  let body := input.takeWhile (· ≠ lineFeed)
  -- Only a line that a line feed ends can lose a carriage return.
  if body.length < input.length ∧ body.getLast? = some carriageReturn then body.dropLast
  else body

/-- The first line of the input, if its bytes are valid UTF-8. -/
def inputLine? (input : List UInt8) : Option String :=
  String.fromUTF8? ⟨(lineBytes input).toArray⟩

end LineCalculator.Console
