import LineCalculator.Fault
import LineCalculator.Representable

/-!
# Checked arithmetic

An operator combines two operands exactly, and the result is then narrowed.  The
two ways to fail are a zero divisor and a result that does not fit; both are
reported at the column of the operator.
-/

namespace LineCalculator.Operator

/-- Combine two operands of the operator that stands at `column`. -/
def combine (op : Operator) (lhs rhs : Int) (column : Column) : Except Fault Int :=
  if op = divide ∧ rhs = 0 then .error (.divisionByZero column)
  else
    match narrow? (op.exact lhs rhs) with
    | some result => .ok result
    | none => .error (.overflow column)

/-- An operator succeeds exactly where its exact result exists and fits. -/
theorem combine_eq_ok_iff {op : Operator} {lhs rhs result : Int} {column : Column} :
    op.combine lhs rhs column = .ok result ↔
      ¬ (op = divide ∧ rhs = 0) ∧ Representable (op.exact lhs rhs) ∧
        op.exact lhs rhs = result := by
  unfold combine
  split
  · simp_all
  · cases hnarrow : narrow? (op.exact lhs rhs) with
    | none => simp_all [narrow?_eq_none_iff]
    | some kept =>
        obtain ⟨hfits, rfl⟩ := narrow?_eq_some_iff.1 hnarrow
        simp_all

/-- The two ways in which an operator fails. -/
theorem combine_eq_error_iff {op : Operator} {lhs rhs : Int} {column : Column} {fault : Fault} :
    op.combine lhs rhs column = .error fault ↔
      (op = divide ∧ rhs = 0 ∧ fault = .divisionByZero column) ∨
        (¬ (op = divide ∧ rhs = 0) ∧ ¬ Representable (op.exact lhs rhs) ∧
          fault = .overflow column) := by
  unfold combine narrow?
  by_cases hdivisor : op = divide ∧ rhs = 0
  · simp [hdivisor, eq_comm]
  · by_cases hfits : Representable (op.exact lhs rhs)
    · simp only [if_neg hdivisor, if_pos hfits]
      simp_all
    · simp only [if_neg hdivisor, if_neg hfits]
      simp_all [eq_comm]

end LineCalculator.Operator
