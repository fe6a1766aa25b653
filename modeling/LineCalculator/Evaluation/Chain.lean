import LineCalculator.Arithmetic
import LineCalculator.Evaluation.Basic

/-!
# Chains

A chain is a sequence of operands joined by operators of one level.  It is evaluated
while it is read: an operator combines the value so far with its right operand as
soon as that operand is complete, so operators of one level associate to the left and
no tree is built.
-/

namespace LineCalculator.Evaluation

/-- Consume the operator `op`, read its right operand and combine both operands. -/
def combineNext (operand : Evaluation Int) (lhs : Int) (op : Operator) : Evaluation Int := do
  let column := (← get).current.column
  discard <| expect (.operator op)
  let rhs ← operand
  let result ← ofExcept (op.combine lhs rhs column)
  modify (Lookahead.record (.combined lhs op rhs result))
  return result

/-- What combining does where the operator stands. -/
theorem run_combineNext (operand : Evaluation Int) (lhs : Int) {op : Operator} {s : Lookahead}
    (hop : s.current.token = .operator op) :
    (combineNext operand lhs op).run s =
      match operand.run s.advance with
      | .error fault s' => .error fault s'
      | .ok rhs s' =>
          match op.combine lhs rhs s.current.column with
          | .error fault => .error fault s'
          | .ok result => .ok result (s'.record (.combined lhs op rhs result)) := by
  have hcategory : s.current.token.category = .operator op := by
    rw [hop]
    rfl
  unfold combineNext
  rw [EStateM.run_bind, EStateM.run_get]
  dsimp only
  rw [EStateM.run_bind, run_discard_expect, if_pos hcategory]
  dsimp only
  rw [EStateM.run_bind]
  cases operand.run s.advance with
  | error fault s' => rfl
  | ok rhs s' =>
      dsimp only
      cases op.combine lhs rhs s.current.column <;> rfl

/-- A rule of the grammar whose value can be an operand. -/
structure Operand where
  /-- Read and evaluate the rule. -/
  read : Evaluation Int
  /-- Reading never moves away from the end of the line. -/
  advances : Advances read

/-- Reading the right operand of an operator brings the end of the line nearer, whether or not it
succeeds. -/
theorem remaining_operand_lt (operand : Operand) {level : Level} {op : Operator} {s : Lookahead}
    (hop : s.operator? level = some op) :
    (stateAfter (operand.read.run s.advance)).remaining < s.remaining := by
  have hmore : s.current.token ≠ .endOfLine := by
    rw [(Lookahead.operator?_eq_some_iff.1 hop).1]
    simp
  exact Nat.lt_of_le_of_lt (operand.advances s.advance) (Lookahead.remaining_advance_lt hmore)

/-- Combining takes at least the operator, whether or not it succeeds. -/
theorem remaining_combineNext_lt (operand : Operand) (lhs : Int) {level : Level}
    {op : Operator} {s : Lookahead} (hop : s.operator? level = some op) :
    (stateAfter ((combineNext operand.read lhs op).run s)).remaining < s.remaining := by
  have hlt := remaining_operand_lt operand hop
  rw [run_combineNext operand.read lhs (Lookahead.operator?_eq_some_iff.1 hop).1]
  cases hread : operand.read.run s.advance with
  | error fault s' =>
      rw [hread] at hlt
      exact hlt
  | ok rhs s' =>
      rw [hread] at hlt
      dsimp only
      split <;> exact hlt

/-- Combine operands from the left for as long as operators of the level follow. -/
def chain (operand : Operand) (level : Level) (lhs : Int) : Evaluation Int := fun s =>
  match _hop : s.operator? level with
  | none => .ok lhs s
  | some op =>
      match _hrun : (combineNext operand.read lhs op).run s with
      | .error fault s' => .error fault s'
      | .ok result s' => chain operand level result s'
termination_by s => s.remaining
decreasing_by
  have hlt := remaining_combineNext_lt operand lhs _hop
  rw [_hrun] at hlt
  exact hlt

theorem run_chain (operand : Operand) (level : Level) (lhs : Int) (s : Lookahead) :
    (chain operand level lhs).run s =
      match s.operator? level with
      | none => .ok lhs s
      | some op => ((combineNext operand.read lhs op) >>= chain operand level).run s := by
  show chain operand level lhs s = _
  rw [chain]
  split
  · simp_all
  · next op hop =>
      rw [hop]
      dsimp only
      rw [EStateM.run_bind]
      split <;> simp_all [EStateM.run]

theorem advances_chain (operand : Operand) (level : Level) (lhs : Int) :
    Advances (chain operand level lhs) := by
  intro s
  induction hsize : s.remaining using Nat.strongRecOn generalizing lhs s with
  | _ size ih =>
      subst hsize
      rw [run_chain]
      cases hop : s.operator? level with
      | none => exact Nat.le_refl _
      | some op =>
          have hlt := remaining_combineNext_lt operand lhs hop
          dsimp only
          rw [EStateM.run_bind]
          cases hrun : (combineNext operand.read lhs op).run s with
          | error fault s' =>
              rw [hrun] at hlt
              exact Nat.le_of_lt hlt
          | ok result s' =>
              rw [hrun] at hlt
              exact Nat.le_trans (ih _ hlt result s' rfl) (Nat.le_of_lt hlt)

/-- Operands joined by operators of one level, evaluated from the left. -/
def joined (operand : Operand) (level : Level) : Evaluation Int :=
  operand.read >>= chain operand level

theorem advances_joined (operand : Operand) (level : Level) :
    Advances (joined operand level) :=
  operand.advances.bind (advances_chain operand level)

end LineCalculator.Evaluation
