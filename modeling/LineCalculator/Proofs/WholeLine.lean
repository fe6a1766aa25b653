import LineCalculator.Line
import LineCalculator.Proofs.Stream

/-!
# The value of a whole line

Evaluating a line takes the course of an expression from the first entry of its stream.
The lenient mode gives what that course gives.  The strict mode keeps its faults, and
looks at the entry where a successful course stops: the value stands only if the line
ends there.
-/

namespace LineCalculator

namespace Evaluation

theorem run_total_lenient (s : Lookahead) :
    (total .lenient).run s =
      match expression.run s with
      | .error fault s' => .error fault s'
      | .ok n s' => .ok n (s'.record (.totalled n)) := by
  unfold total
  rw [EStateM.run_bind]
  cases expression.run s <;> rfl

/-- Only the end of the line has the category of the end. -/
theorem category_eq_endOfLine_iff {token : Token} :
    token.category = .endOfLine ↔ token = .endOfLine := by
  cases token <;> simp [Token.category]

theorem run_total_strict (s : Lookahead) :
    (total .strict).run s =
      match expression.run s with
      | .error fault s' => .error fault s'
      | .ok n s' =>
          if s'.current.token = .endOfLine then .ok n (s'.advance.record (.totalled n))
          else .error (.unexpected .endOfLine s'.current.token s'.current.column) s' := by
  unfold total
  rw [EStateM.run_bind]
  cases expression.run s with
  | error fault s' => rfl
  | ok n s' =>
      dsimp only
      rw [if_pos rfl, EStateM.run_bind, run_discard_expect]
      by_cases hend : s'.current.token = .endOfLine
      · rw [if_pos (category_eq_endOfLine_iff.2 hend), if_pos hend]
        rfl
      · rw [if_neg (mt category_eq_endOfLine_iff.1 hend), if_neg hend]

/-- What asking for a total does, by what the expression does. -/
inductive Totalled (s : Lookahead) : Mode → EStateM.Result Fault Lookahead Int → Prop
  /-- The expression has a fault. -/
  | fault {mode : Mode} {fault : Fault} {s' : Lookahead}
      (hrun : expression.run s = .error fault s') : Totalled s mode (.error fault s')
  /-- The expression has a value, and what is left over does not matter. -/
  | lenient {n : Int} {s' : Lookahead} (hrun : expression.run s = .ok n s') :
      Totalled s .lenient (.ok n (s'.record (.totalled n)))
  /-- The expression has a value, and nothing is left over. -/
  | strict {n : Int} {s' : Lookahead} (hrun : expression.run s = .ok n s')
      (hend : s'.current.token = .endOfLine) :
      Totalled s .strict (.ok n (s'.advance.record (.totalled n)))
  /-- The expression has a value, and what is left over is refused. -/
  | leftOver {n : Int} {s' : Lookahead} (hrun : expression.run s = .ok n s')
      (hmore : s'.current.token ≠ .endOfLine) :
      Totalled s .strict
        (.error (.unexpected .endOfLine s'.current.token s'.current.column) s')

theorem totalled (mode : Mode) (s : Lookahead) : Totalled s mode ((total mode).run s) := by
  cases mode with
  | lenient =>
      rw [run_total_lenient]
      cases hrun : expression.run s with
      | error fault s' => exact .fault hrun
      | ok n s' => exact .lenient hrun
  | strict =>
      rw [run_total_strict]
      cases hrun : expression.run s with
      | error fault s' => exact .fault hrun
      | ok n s' =>
          dsimp only
          split
          · exact .strict hrun ‹_›
          · exact .leftOver hrun ‹_›

end Evaluation

open Evaluation Segmentation

variable {line : String}

theorem evaluate_empty (mode : Mode) : evaluate mode "" = .error .emptyLine := rfl

theorem evaluate_of_ne (mode : Mode) (hline : line ≠ "") :
    evaluate mode line =
      outcome ((total mode).run (.ofScanner (.ofString line))) := by
  unfold evaluate evaluateWithEvents
  rw [if_neg hline]

/-- The state in which the evaluation of a line stops. -/
def finalState (mode : Mode) (line : String) : Lookahead :=
  stateAfter ((total mode).run (.ofScanner (.ofString line)))

theorem evaluateWithEvents_of_ne (mode : Mode) (hline : line ≠ "") :
    evaluateWithEvents mode line = (evaluate mode line, (finalState mode line).log.toList) := by
  unfold evaluate evaluateWithEvents finalState
  rw [if_neg hline]

/-- Every line has a course from its first entry. -/
theorem exists_course (line : String) :
    ∃ result events stop, ExpressionCourse (stream line.toList) 0 result events stop := by
  obtain ⟨events, stop, hcourse, -⟩ :=
    takes_expression _ 0 (Lookahead.at_ofScanner line 0)
  exact ⟨_, events, stop, hcourse⟩

/-- What reading an expression from the start of a line gives, by its course. -/
theorem run_expression_of_course {result : Except Fault Int} {events : List Event} {stop : Nat}
    (hcourse : ExpressionCourse (stream line.toList) 0 result events stop) :
    outcome (expression.run (.ofScanner (.ofString line))) = result ∧
      (stateAfter (expression.run (.ofScanner (.ofString line)))).At (stream line.toList) stop :=
  takes_expression.eq_of_course functional_expressionCourse (Lookahead.at_ofScanner line 0) hcourse

/-- In lenient mode a line gives what its course gives. -/
theorem evaluate_lenient_of_course {result : Except Fault Int} {events : List Event} {stop : Nat}
    (hline : line ≠ "")
    (hcourse : ExpressionCourse (stream line.toList) 0 result events stop) :
    evaluate .lenient line = result := by
  obtain ⟨hresult, -⟩ := run_expression_of_course hcourse
  rw [evaluate_of_ne _ hline, run_total_lenient, ← hresult]
  cases expression.run (.ofScanner (.ofString line)) <;> rfl

/-- Whatever a line gives in lenient mode, a course gives it. -/
theorem exists_course_of_lenient {result : Except Fault Int} (hline : line ≠ "")
    (hresult : evaluate .lenient line = result) :
    ∃ events stop, ExpressionCourse (stream line.toList) 0 result events stop := by
  obtain ⟨result', events, stop, hcourse⟩ := exists_course line
  have hsame : result' = result := by
    rw [← evaluate_lenient_of_course hline hcourse, hresult]
  rw [hsame] at hcourse
  exact ⟨events, stop, hcourse⟩

/-- In strict mode a fault stays. -/
theorem evaluate_strict_of_fault {fault : Fault} {events : List Event} {stop : Nat}
    (hline : line ≠ "")
    (hcourse : ExpressionCourse (stream line.toList) 0 (.error fault) events stop) :
    evaluate .strict line = .error fault := by
  obtain ⟨hresult, -⟩ := run_expression_of_course hcourse
  rw [evaluate_of_ne _ hline, run_total_strict]
  cases hrun : expression.run (.ofScanner (.ofString line)) with
  | ok n s' =>
      rw [hrun] at hresult
      cases hresult
  | error fault' s' =>
      rw [hrun] at hresult
      exact hresult

/-- In strict mode a value stays where the line ends, and what stands there otherwise is
a fault. -/
theorem evaluate_strict_of_value {n : Int} {events : List Event} {stop : Nat}
    (hline : line ≠ "")
    (hcourse : ExpressionCourse (stream line.toList) 0 (.ok n) events stop) :
    evaluate .strict line =
      if (stream line.toList stop).token = .endOfLine then .ok n
      else .error (.unexpected .endOfLine (stream line.toList stop).token
        (stream line.toList stop).column) := by
  obtain ⟨hresult, hat⟩ := run_expression_of_course hcourse
  rw [evaluate_of_ne _ hline, run_total_strict]
  cases hrun : expression.run (.ofScanner (.ofString line)) with
  | error fault s' =>
      rw [hrun] at hresult
      cases hresult
  | ok m s' =>
      rw [hrun] at hresult hat
      cases hresult
      have hcurrent : s'.current = stream line.toList stop := hat.current_eq
      dsimp only
      rw [hcurrent]
      split <;> rfl

end LineCalculator
