import LineCalculator.Evaluation.Grammar

/-!
# Conversations with an evaluation

Each rule of the grammar can be asked for by itself, any number of times and in any
order.  A request is served from the state that the one before it left, also when
that one failed.
-/

namespace LineCalculator.Evaluation

/-- What can be asked of a lookahead. -/
inductive Request where
  | factor
  | term
  | expression
  | total (mode : Mode)
  | expect (category : Category)
  deriving DecidableEq

/-- What a request that is met gives: the value of a rule or the token that was expected. -/
inductive Reply where
  | value (n : Int)
  | token (token : Token)
  deriving DecidableEq

/-- The computation that serves a request. -/
def Request.serve : Request → Evaluation Reply
  | factor => .value <$> Evaluation.factor
  | term => .value <$> Evaluation.term
  | expression => .value <$> Evaluation.expression
  | total mode => .value <$> Evaluation.total mode
  | expect category => .token <$> Evaluation.expect category

/-- The outcomes of requests, each with the state that it leaves. -/
def converse : List Request → Lookahead → List (Except Fault Reply × Lookahead)
  | [], _ => []
  | request :: more, s =>
      let result := request.serve.run s
      (outcome result, stateAfter result) :: converse more (stateAfter result)

end LineCalculator.Evaluation
