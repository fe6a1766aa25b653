import LineCalculator.Scanner

/-!
# Conversations with a scanner

The ways of reading a scanner can be mixed freely.  Each request is served from the
state that the one before it left.
-/

namespace LineCalculator.Scanner

/-- What can be asked of a scanner. -/
inductive Request where
  /-- One lexeme, whatever it is. -/
  | lexeme
  /-- The next acceptable token. -/
  | token
  /-- All acceptable tokens that are left. -/
  | tokens
  deriving DecidableEq

/-- What a request gives. -/
inductive Reply where
  | lexeme (lexeme : Lexeme)
  | token (token? : Option (Except Fault Token))
  | tokens (tokens : Except Fault (List Token))

/-- Serve one request. -/
def serve (s : Scanner) : Request → Reply × Scanner
  | .lexeme => (.lexeme s.scan.1, s.scan.2)
  | .token => (.token s.next?.1, s.next?.2)
  | .tokens => (.tokens s.collect.1, s.collect.2)

/-- The replies to requests, each with the state that it leaves. -/
def converse : List Request → Scanner → List (Reply × Scanner)
  | [], _ => []
  | request :: more, s => s.serve request :: converse more (s.serve request).2

end LineCalculator.Scanner
