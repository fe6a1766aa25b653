import LineCalculator.Token

/-!
# Events

A run over a line can be followed by its events: each lexeme as it is read, each
pair of operands as an operator combines them, and the total.
-/

namespace LineCalculator

/-- How much of a run is followed; a later verbosity includes every earlier one. -/
inductive Verbosity where
  | off
  | error
  | warn
  | info
  | debug
  | trace
  deriving DecidableEq

/-- The steps of a run that are worth following. -/
inductive Event where
  | scanned (lexeme : Lexeme)
  | combined (lhs : Int) (op : Operator) (rhs result : Int)
  | totalled (result : Int)
  deriving DecidableEq

/-- The place of a verbosity in their order. -/
def Verbosity.rank : Verbosity → Nat
  | off => 0
  | error => 1
  | warn => 2
  | info => 3
  | debug => 4
  | trace => 5

/-- The name of a verbosity in log lines. -/
def Verbosity.name : Verbosity → String
  | off => "OFF"
  | error => "ERROR"
  | warn => "WARN"
  | info => "INFO"
  | debug => "DEBUG"
  | trace => "TRACE"

namespace Event

/-- The least verbosity at which an event is followed. -/
def verbosity : Event → Verbosity
  | scanned _ => .trace
  | combined _ _ _ _ => .debug
  | totalled _ => .debug

/-- The topic under which an event is logged. -/
def topic : Event → String
  | scanned _ => "minicalc::lexer"
  | combined _ _ _ _ => "minicalc::evaluator"
  | totalled _ => "minicalc::evaluator"

/-- The sentence that reports an event. -/
def message : Event → String
  | scanned lexeme => "lexed " ++ lexeme.token.listing ++ " at " ++ lexeme.column.label
  | combined lhs op rhs result =>
      Decimal.ofInt lhs ++ " " ++ String.singleton op.symbol ++ " " ++ Decimal.ofInt rhs ++
        " = " ++ Decimal.ofInt result
  | totalled result => "result " ++ Decimal.ofInt result

end Event

end LineCalculator
