import LineCalculator.Console.Arguments
import LineCalculator.Console.InputLine
import LineCalculator.Console.LogFilter
import LineCalculator.Console.Paint
import LineCalculator.Line
import LineCalculator.Text.ControlSequence

/-!
# Session

One use of the command line, from its arguments to what it prints.  A session takes
its line from the arguments or else asks for it, and answers with the value or the
tokens of the line, or with a report of the fault.  Events that the log filter shows
come before the report.
-/

namespace LineCalculator.Console

/-- The settings that a session takes from its surroundings. -/
structure Surroundings where
  /-- Any text but the empty one turns colour off. -/
  noColor? : Option String
  /-- The text of the log filter. -/
  logFilter? : Option String

/-- What a session prints, and the status with which it ends. -/
structure Output where
  status : Nat
  printed : String
  reported : String
  deriving DecidableEq

/-- What a command line and its surroundings settle before a line is known. -/
structure Session where
  arguments : Arguments
  coloured : Bool
  filter : LogFilter

namespace Output

/-- A success that reports nothing. -/
def success (printed : String) : Output := ⟨0, printed, ""⟩

/-- A command line that cannot be understood. -/
def misuse (complaint : String) : Output := ⟨2, "", "error: " ++ complaint ++ "\n"⟩

/-- The answer to a command line that asks for no session.  What it repeats of the
arguments is reduced to what is legible. -/
def ofStop : Stop → Output
  | .help => success helpText
  | .version => success versionText
  | .unexpectedArgument text => misuse ("unexpected argument '" ++ Text.legible text ++ "' found")
  | .repeatedFlag flag =>
      misuse ("the argument '--" ++ flag.name ++ "' cannot be used multiple times")
  | .unexpectedValue value flag =>
      misuse ("unexpected value '" ++ Text.legible value ++ "' for '--" ++ flag.name ++
        "' found; no more were expected")

end Output

namespace Session

/-- Settle a session, or answer a command line that asks for none. -/
def ofArguments (surroundings : Surroundings) (texts : List String) : Except Output Session :=
  match Arguments.parse texts with
  | .error stop => .error (.ofStop stop)
  | .ok arguments =>
      .ok {
        arguments
        coloured := !arguments.has .noColor && (surroundings.noColor?.getD "").isEmpty
        filter := .parse (surroundings.logFilter?.getD "") }

/-- The line of asterisks in the banner. -/
def rule : String := "***********************************************"

/-- The lines of the banner. -/
def banner : List String := [
  rule,
  "            Welcome to the Mini Calculator",
  rule,
  "    A simple calculator that supports",
  "    addition, subtraction, multiplication,",
  "    and division operations.",
  rule]

/-- The request for an expression. -/
def request : String :=
  "\nEnter an arithmetic expression (e.g., 3 + 5 * 2):\n" ++
    "-----------------------------------------------\n"

/-- What a session prints before it reads its line. -/
def greeting (session : Session) : String :=
  if session.arguments.has .quiet then ""
  else
    String.join (banner.map fun text => paint session.coloured .banner text ++ "\n") ++ request

/-- The log of a run, reduced to the events that are shown. -/
def log (session : Session) (events : List Event) : String :=
  String.join ((events.filter session.filter.shows).map logLine)

/-- A failure behind the log of its run. -/
def failure (session : Session) (events : List Event) (sentence : String) : Output :=
  ⟨1, "", session.log events ++ paint session.coloured .fault ("Error: " ++ sentence) ++ "\n"⟩

/-- A success behind the log of its run. -/
def success (session : Session) (events : List Event) (printed : String) : Output :=
  ⟨0, printed, session.log events⟩

/-- The mode in which a session evaluates its line. -/
def mode (session : Session) : Mode :=
  if session.arguments.has .strict then .strict else .lenient

/-- The answer to a line: its tokens, one on each line, or its value. -/
def answer (session : Session) (line : String) : Output :=
  if session.arguments.has .tokens then
    match tokenizeWithEvents line with
    | (.error fault, events) => session.failure events fault.message
    | (.ok tokens, events) =>
        session.success events (String.join (tokens.map fun token => token.listing ++ "\n"))
  else
    match evaluateWithEvents session.mode line with
    | (.error fault, events) => session.failure events fault.message
    | (.ok result, events) =>
        session.success events
          (paint session.coloured .result ("\nResult = " ++ Decimal.ofInt result) ++ "\n")

/-- The answer to the input, of which the first line counts. -/
def answerInput (session : Session) (input : List UInt8) : Output :=
  match inputLine? input with
  | some line => session.answer line
  | none => session.failure [] "stream did not contain valid UTF-8"

end Session

/-- Everything that a command line prints, given the input that is there to be read. -/
def respond (surroundings : Surroundings) (texts : List String) (input : List UInt8) : Output :=
  match Session.ofArguments surroundings texts with
  | .error output => output
  | .ok session =>
      match session.arguments.expression? with
      | some line => session.answer line
      | none =>
          let output := session.answerInput input
          { output with printed := session.greeting ++ output.printed }

end LineCalculator.Console
