import LineCalculator.Evaluation.Chain

/-!
# Grammar

The rules of a line are

* total: an expression and, in strict mode, the end of the line,
* expression: terms joined by operators of the sum level,
* term: factors joined by operators of the product level,
* factor: a number.
-/

namespace LineCalculator

/-- What becomes of tokens behind a complete expression. -/
inductive Mode where
  /-- They are left unread. -/
  | lenient
  /-- The first of them is a fault. -/
  | strict
  deriving DecidableEq

namespace Evaluation

/-- A factor is a number; an oversized one is consumed before it is refused. -/
def factor : Evaluation Int := do
  let column := (← get).current.column
  match ← expect .number with
  | .oversized => throw (.literalTooLarge column)
  | token => return token.value

theorem run_factor (s : Lookahead) :
    factor.run s =
      match s.current.token with
      | .number n => .ok n s.advance
      | .oversized => .error (.literalTooLarge s.current.column) s.advance
      | token => .error (.unexpected .number token s.current.column) s := by
  unfold factor
  rw [EStateM.run_bind, EStateM.run_get]
  dsimp only
  rw [EStateM.run_bind, run_expect]
  cases s.current.token <;> rfl

theorem advances_factor : Advances factor := by
  intro s
  have hle := s.remaining_advance_le
  rw [run_factor]
  cases s.current.token with
  | number _ => exact hle
  | oversized => exact hle
  | operator _ => exact Nat.le_refl _
  | invalid _ => exact Nat.le_refl _
  | endOfLine => exact Nat.le_refl _

/-- Factors joined by multiplication and division. -/
def term : Evaluation Int := joined ⟨factor, advances_factor⟩ .product

/-- Terms joined by addition and subtraction. -/
def expression : Evaluation Int := joined ⟨term, advances_joined _ _⟩ .sum

/-- A whole line: an expression and, in strict mode, nothing behind it. -/
def total (mode : Mode) : Evaluation Int := do
  let result ← expression
  if mode = .strict then
    discard <| expect .endOfLine
  modify (Lookahead.record (.totalled result))
  return result

end Evaluation

end LineCalculator
