import LineCalculator.Proofs.WholeLine

/-!
# Diagnosis

A line with several faults reports one of them.  Which one is described here by a single
scan over the lexemes of the line, from left to right, that remembers at most two
operators whose right operand is not complete: one of the sum level and one of the
product level.

* A pending product is settled as soon as its operand is read.
* A pending sum is settled as soon as the term behind it is complete, which is seen at the
  lexeme behind the term.
* Each operator is remembered with the column at which it stands.

Main statement: evaluation in lenient mode fails exactly where the scan does, with the
same fault.  The scan has no loops inside each other and reads no characters; the nested
chains of an evaluation are related to it one chain at a time, for any pending operators
around the chain.
-/

namespace LineCalculator

namespace Diagnosis

/-- An operator whose left operand is known and whose right operand is still to come. -/
structure Pending where
  lhs : Int
  op : Operator
  column : Column

/-- Give an operator its right operand.  A zero divisor is found before a result that does
not fit, and both are reported where the operator stands. -/
def Pending.settle (pending : Pending) (rhs : Int) : Except Fault Int :=
  if pending.op = .divide ∧ rhs = 0 then .error (.divisionByZero pending.column)
  else if Representable (pending.op.exact pending.lhs rhs) then
    .ok (pending.op.exact pending.lhs rhs)
  else .error (.overflow pending.column)

/-- Give an operand to the operator that waits for it, if one does. -/
def settle (pending? : Option Pending) (operand : Int) : Except Fault Int :=
  match pending? with
  | none => .ok operand
  | some pending => pending.settle operand

mutual

/-- Scan from an operand on. -/
def atOperand (ending : Column) (sum? product? : Option Pending) :
    List Lexeme → Except Fault Int
  | [] => .error (.unexpected .number .endOfLine ending)
  | ⟨.number n, _⟩ :: more => do
      let term ← settle product? n
      behindOperand ending sum? term more
  | ⟨.oversized, column⟩ :: _ => .error (.literalTooLarge column)
  | ⟨token, column⟩ :: _ => .error (.unexpected .number token column)

/-- Scan on behind an operand, with the value of its term so far. -/
def behindOperand (ending : Column) (sum? : Option Pending) (term : Int) :
    List Lexeme → Except Fault Int
  | ⟨.operator op, column⟩ :: more =>
      match op.level with
      | .product => atOperand ending sum? (some ⟨term, op, column⟩) more
      | .sum => do
          let total ← settle sum? term
          atOperand ending (some ⟨total, op, column⟩) none more
  | _ => settle sum? term

end

/-- The scan of a whole line; the empty line is refused before anything is read. -/
def ofLine (line : String) : Except Fault Int :=
  if line = "" then .error .emptyLine
  else atOperand line.toList.length none none (Segmentation.lexemes line.toList)

open Evaluation Segmentation

theorem settle_some (lhs rhs : Int) (op : Operator) (column : Column) :
    settle (some ⟨lhs, op, column⟩) rhs = op.combine lhs rhs column := by
  unfold settle Pending.settle Operator.combine narrow?
  dsimp only
  split
  · rfl
  · split <;> rfl

/-- Anything that is no number is refused at an operand. -/
theorem atOperand_of_category_ne {ending : Column} {sum? product? : Option Pending}
    {lexeme : Lexeme} {more : List Lexeme} (hcategory : lexeme.token.category ≠ .number) :
    atOperand ending sum? product? (lexeme :: more) =
      .error (.unexpected .number lexeme.token lexeme.column) := by
  obtain ⟨token, column⟩ := lexeme
  cases token with
  | number n => simp [Token.category] at hcategory
  | oversized => simp [Token.category] at hcategory
  | operator op => rw [atOperand] <;> simp
  | invalid c => rw [atOperand] <;> simp
  | endOfLine => rw [atOperand] <;> simp

variable {line : List Char} {start stop : Nat} {outcome : Except Fault Int} {events : List Event}

/-- The scan at a factor: its fault, or its value for the pending product. -/
theorem atOperand_of_factorCourse (sum? product? : Option Pending)
    (hcourse : FactorCourse (stream line) start outcome events stop) :
    atOperand line.length sum? product? (following line start) =
      (do
        let n ← outcome
        let term ← settle product? n
        behindOperand line.length sum? term (following line stop)) := by
  cases hcourse with
  | number hentry =>
      rw [following_of_entry hentry Token.noConfusion, atOperand]
      rfl
  | oversized hentry =>
      rw [following_of_entry hentry Token.noConfusion, atOperand]
      rfl
  | unexpected hcategory =>
      rcases following_cases line start with ⟨hnil, hend⟩ | ⟨hcons, -⟩
      · rw [hnil, hend, atOperand]
        rfl
      · rw [hcons, atOperand_of_category_ne hcategory]
        rfl

variable {op : Operator} {column : Column}

/-- An operator of the product level waits for the next factor. -/
theorem behindOperand_of_product (sum? : Option Pending) (term : Int)
    (hentry : stream line start = ⟨.operator op, column⟩) (hlevel : op.level = .product) :
    behindOperand line.length sum? term (following line start) =
      atOperand line.length sum? (some ⟨term, op, column⟩) (following line (start + 1)) := by
  rw [following_of_entry hentry Token.noConfusion, behindOperand, hlevel]

/-- An operator of the sum level settles the pending sum and waits for the next term. -/
theorem behindOperand_of_sum (sum? : Option Pending) (term : Int)
    (hentry : stream line start = ⟨.operator op, column⟩) (hlevel : op.level = .sum) :
    behindOperand line.length sum? term (following line start) =
      (do
        let total ← settle sum? term
        atOperand line.length (some ⟨total, op, column⟩) none (following line (start + 1))) := by
  rw [following_of_entry hentry Token.noConfusion, behindOperand, hlevel]

/-- Where no operator follows, the scan ends with the pending sum. -/
theorem behindOperand_of_not_operator (sum? : Option Pending) (term : Int)
    (htoken : ∀ op, (stream line start).token ≠ .operator op) :
    behindOperand line.length sum? term (following line start) = settle sum? term := by
  rcases following_cases line start with ⟨hnil, -⟩ | ⟨hcons, -⟩
  · rw [hnil, behindOperand]
    simp
  · rw [hcons, behindOperand]
    intro op column more hmatch
    apply htoken op
    rw [(List.cons.inj hmatch).1]

/-- The scan behind a factor does what a chain of products does, with any pending sum. -/
theorem behindOperand_of_productChain (sum? : Option Pending) {lhs : Int}
    (hcourse : ChainCourse (stream line) (FactorCourse (stream line)) .product lhs start outcome
      events stop) :
    behindOperand line.length sum? lhs (following line start) =
      (do
        let term ← outcome
        behindOperand line.length sum? term (following line stop)) := by
  induction hcourse with
  | done _ => rfl
  | operandFault hentry hlevel hoperand =>
      rw [behindOperand_of_product _ _ hentry hlevel]
      exact atOperand_of_factorCourse _ _ hoperand
  | combineFault hentry hlevel hoperand hcombine =>
      rw [behindOperand_of_product _ _ hentry hlevel, atOperand_of_factorCourse _ _ hoperand]
      simp only [settle_some, hcombine, bind, Except.bind]
  | step hentry hlevel hoperand hcombine _ ih =>
      rw [behindOperand_of_product _ _ hentry hlevel, atOperand_of_factorCourse _ _ hoperand,
        ← ih]
      simp only [settle_some, hcombine, bind, Except.bind]

/-- The scan at a term: its fault, or its value for the pending sum. -/
theorem atOperand_of_termCourse (sum? : Option Pending)
    (hcourse : TermCourse (stream line) start outcome events stop) :
    atOperand line.length sum? none (following line start) =
      (do
        let term ← outcome
        behindOperand line.length sum? term (following line stop)) := by
  cases hcourse with
  | fault hoperand => exact atOperand_of_factorCourse sum? none hoperand
  | chain hoperand hchain =>
      rw [atOperand_of_factorCourse sum? none hoperand]
      exact behindOperand_of_productChain sum? hchain

/-- Behind a complete term the pending sum is settled before anything else is read. -/
theorem behindOperand_of_ends (sum? : Option Pending) (term : Int)
    (hends : Ends (stream line) .product start) :
    behindOperand line.length sum? term (following line start) =
      (do
        let total ← settle sum? term
        behindOperand line.length none total (following line start)) := by
  by_cases hoperator : ∃ op, (stream line start).token = .operator op
  · obtain ⟨op, htoken⟩ := hoperator
    have hentry := Lexeme.eq_of_token htoken
    -- The term is complete, so the operator is of the sum level and settles the sum itself.
    have hlevel : op.level = .sum := by
      cases hop : op.level with
      | sum => rfl
      | product => exact absurd hop (hends op htoken)
    simp only [behindOperand_of_sum _ _ hentry hlevel]
    rfl
  · have hnone := not_exists.1 hoperator
    simp only [behindOperand_of_not_operator _ _ hnone]
    cases settle sum? term <;> rfl

/-- The scan at a term that has a value: the value completes the pending sum. -/
theorem atOperand_of_term_value (sum? : Option Pending) {term : Int}
    (hcourse : TermCourse (stream line) start (.ok term) events stop) :
    atOperand line.length sum? none (following line start) =
      (do
        let total ← settle sum? term
        behindOperand line.length none total (following line stop)) :=
  (atOperand_of_termCourse sum? hcourse).trans (behindOperand_of_ends sum? term hcourse.ends)

/-- The scan behind a complete term, with no sum pending, ends as a chain of sums does. -/
theorem behindOperand_of_sumChain {lhs : Int}
    (hcourse : ChainCourse (stream line) (TermCourse (stream line)) .sum lhs start outcome
      events stop) (hends : Ends (stream line) .product start) :
    behindOperand line.length none lhs (following line start) = outcome := by
  -- Each term is settled before the next operator is seen, so no sum is pending again.
  induction hcourse with
  | done hsum => exact behindOperand_of_not_operator none _ (not_operator_of_ends hends hsum)
  | operandFault hentry hlevel hoperand =>
      rw [behindOperand_of_sum _ _ hentry hlevel]
      exact atOperand_of_termCourse _ hoperand
  | combineFault hentry hlevel hoperand hcombine =>
      rw [behindOperand_of_sum _ _ hentry hlevel]
      refine (atOperand_of_term_value _ hoperand).trans ?_
      simp only [settle_some, hcombine, bind, Except.bind]
  | step hentry hlevel hoperand hcombine _ ih =>
      rw [behindOperand_of_sum _ _ hentry hlevel]
      refine (atOperand_of_term_value _ hoperand).trans ?_
      simp only [settle_some, hcombine, bind, Except.bind]
      exact ih hoperand.ends

/-- The scan of an expression gives what its course gives. -/
theorem atOperand_of_expressionCourse
    (hcourse : ExpressionCourse (stream line) start outcome events stop) :
    atOperand line.length none none (following line start) = outcome := by
  cases hcourse with
  | fault hoperand => exact atOperand_of_termCourse none hoperand
  | chain hoperand hchain =>
      rw [atOperand_of_term_value none hoperand]
      exact behindOperand_of_sumChain hchain hoperand.ends

end Diagnosis

open Diagnosis in
/-- Evaluation in lenient mode and the scan agree on every line. -/
theorem evaluate_lenient_eq_ofLine (line : String) : evaluate .lenient line = ofLine line := by
  unfold ofLine
  by_cases hline : line = ""
  · rw [if_pos hline, hline, evaluate_empty]
  · obtain ⟨result, events, stop, hcourse⟩ := exists_course line
    rw [if_neg hline, evaluate_lenient_of_course hline hcourse]
    exact (atOperand_of_expressionCourse hcourse).symm

-- A zero divisor comes before the sum that its term belongs to, and behind a sum that an
-- earlier operator has settled.
example : Diagnosis.ofLine "9223372036854775807+1/0" = .error (.divisionByZero 21) := by cbv

example : Diagnosis.ofLine "9223372036854775807+1-2/0" = .error (.overflow 19) := by cbv

/-- A line fails in lenient mode with exactly the fault that the scan meets first.

So of several faults in a line, the one that is reported is the first in the order of
settling and not in the order of columns: a product counts where its operand is read, and
a sum where the lexeme behind its right term is seen. -/
theorem evaluate_lenient_eq_error_iff (line : String) (fault : Fault) :
    evaluate .lenient line = .error fault ↔ Diagnosis.ofLine line = .error fault := by
  rw [evaluate_lenient_eq_ofLine]

end LineCalculator
