import LineCalculator.Evaluation.Grammar

/-!
# Lines

The operations on a whole line: its value and its tokens, each with the events of
the run that finds it.  The empty line is refused before anything is read.
-/

namespace LineCalculator

/-- The value of a line, or its fault, together with the events of the run. -/
def evaluateWithEvents (mode : Mode) (line : String) : Except Fault Int × List Event :=
  if line = "" then (.error .emptyLine, [])
  else
    let result := (Evaluation.total mode).run (.ofScanner (.ofString line))
    (Evaluation.outcome result, (Evaluation.stateAfter result).log.toList)

/-- The value of a line, or its fault. -/
def evaluate (mode : Mode) (line : String) : Except Fault Int := (evaluateWithEvents mode line).1

/-- The tokens of a line without the end, or its fault, together with the events of the run. -/
def tokenizeWithEvents (line : String) : Except Fault (List Token) × List Event :=
  if line = "" then (.error .emptyLine, [])
  else
    let lexemes := (Scanner.ofString line).gather.1
    (Scanner.accepted lexemes, lexemes.map .scanned)

/-- The tokens of a line without the end, or its fault. -/
def tokenize (line : String) : Except Fault (List Token) := (tokenizeWithEvents line).1

end LineCalculator
