import LineCalculator.Column
import LineCalculator.Operator
import LineCalculator.Text.Escape

/-!
# Tokens

A line is read as a sequence of tokens.  Anything that can stand in a line has a
token: a character without a meaning and a literal too large to represent are
tokens too, and become faults only where a reader needs something else.

Each token is written in two ways: its *listing* shows its kind and content and
stands alone on a line of a token listing, its *quotation* names it inside a message.
-/

namespace LineCalculator

/-- The parts of a line. -/
inductive Token where
  | number (value : Int)
  | operator (op : Operator)
  | invalid (char : Char)
  | oversized
  | endOfLine
  deriving DecidableEq

/-- What a reader can ask for next; the category of a token forgets its content. -/
inductive Category where
  | number
  | operator (op : Operator)
  | endOfLine
  | invalid
  deriving DecidableEq

/-- The word for an operator in a listing. -/
def Operator.listing : Operator → String
  | add => "Add"
  | subtract => "Sub"
  | multiply => "Mul"
  | divide => "Div"

/-- An operator as a message shows it. -/
def Operator.quotation (op : Operator) : String := String.ofList ['\'', op.symbol, '\'']

namespace Category

/-- The word for a category in a listing. -/
def listing : Category → String
  | number => "Number"
  | operator .add => "Plus"
  | operator .subtract => "Minus"
  | operator .multiply => "Mul"
  | operator .divide => "Div"
  | endOfLine => "End"
  | invalid => "Invalid"

/-- The words that name a category inside a message. -/
def quotation : Category → String
  | number => "a number"
  | operator op => op.quotation
  | endOfLine => "end of input"
  | invalid => "an invalid character"

end Category

namespace Token

/-- The category of a token; an oversized literal counts as a number. -/
def category : Token → Category
  | number _ => .number
  | operator op => .operator op
  | invalid _ => .invalid
  | oversized => .number
  | endOfLine => .endOfLine

/-- The value of a number, and zero for every other token. -/
def value : Token → Int
  | number n => n
  | _ => 0

/-- The text of a token in a token listing. -/
def listing : Token → String
  | number n => "Number(" ++ Decimal.ofInt n ++ ")"
  | operator op => "Operator(" ++ op.listing ++ ")"
  | invalid c => "Invalid(" ++ Text.quoted .listing c ++ ")"
  | oversized => "NumberTooLarge"
  | endOfLine => "EOF"

/-- The text that names a token inside a message. -/
def quotation : Token → String
  | number n => Decimal.ofInt n
  | operator op => op.quotation
  | invalid c => Text.quoted .message c
  | oversized => "number too large"
  | endOfLine => "end of input"

end Token

/-- A token together with the column at which it starts. -/
structure Lexeme where
  token : Token
  column : Column
  deriving DecidableEq

/-- A lexeme with a known token is that token at the column of the lexeme. -/
theorem Lexeme.eq_of_token {lexeme : Lexeme} {token : Token} (htoken : lexeme.token = token) :
    lexeme = ⟨token, lexeme.column⟩ := by
  rw [← htoken]

end LineCalculator
