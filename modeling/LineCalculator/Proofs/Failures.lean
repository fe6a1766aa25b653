import LineCalculator.Proofs.Derivation

/-!
# The operator at which an evaluation fails

Where an evaluation fails in its arithmetic, it has come to an operator of the tree that it reads:
both operands are formulas in the line that have values, and the operator does not give one for
these.  The left operand is everything in front of the operator back to the beginning of the term
or of the expression.  It is found by induction on the course, with the formula that has been read
so far.

A zero divisor is the other way round: no division by a literal zero is passed without failing
there.

Main statements: `failsApplied_expressionCourse`, `failsAtZero_expressionCourse`.
-/

namespace LineCalculator

open Formula

/-- A fault of the arithmetic at a column. -/
def Fault.ArithmeticAt (column : Column) : Fault → Prop
  | overflow found => found = column
  | divisionByZero found => found = column
  | _ => False

namespace Formula

/-- A formula ends with a number. -/
theorem WrittenBy.exists_last {entry : Nat → Lexeme} {formula : Formula} {start stop : Nat}
    (hwritten : formula.WrittenBy entry start stop) :
    ∃ last n, stop = last + 1 ∧ (entry last).token = .number n := by
  induction formula generalizing start stop with
  | number n => exact ⟨start, n, hwritten.2, hwritten.1⟩
  | combined op lhs rhs _ ihrhs =>
      obtain ⟨middle, -, -, hrhs⟩ := hwritten
      exact ihrhs hrhs

end Formula

namespace Evaluation

variable {entry : Nat → Lexeme}

/-! The combination that fails. -/

/-- An operator is applied to the formulas on both of its sides, which have values.  The operator
is the root of a tree of the grammar, and the right operand of a sum is a whole term. -/
structure Applied (entry : Nat → Lexeme) (first sign stop : Nat) (op : Operator) (column : Column)
    (lhs rhs : Formula) : Prop where
  grammatical : (Formula.combined op lhs rhs).Grammatical
  entry_eq : entry sign = ⟨.operator op, column⟩
  left_written : lhs.WrittenBy entry first sign
  right_written : rhs.WrittenBy entry (sign + 1) stop
  left_sound : lhs.Sound
  right_sound : rhs.Sound
  ends : op.level = .sum → Ends entry .product stop

/-- The left operand of a sum begins where the evaluation has started.  The one of a product can
also begin behind an operator of the sum level. -/
def Begins (entry : Nat → Lexeme) (start first : Nat) (op : Operator) : Prop :=
  first = start ∨
    op.level = .product ∧ ∃ joint before, first = joint + 1 ∧ start ≤ joint ∧
      (entry joint).token = .operator before ∧ before.level = .sum

theorem Begins.le {start first : Nat} {op : Operator} (hbegins : Begins entry start first op) :
    start ≤ first := by
  rcases hbegins with rfl | ⟨-, joint, -, rfl, hle, -⟩
  · exact Nat.le_refl _
  · exact Nat.le_succ_of_le hle

/-- What an operator fails with is reported where it stands. -/
theorem column_eq_of_combine {op : Operator} {lhs rhs : Int} {column column' : Column}
    {fault : Fault} (hcombine : op.combine lhs rhs column = .error fault)
    (hfault : fault.ArithmeticAt column') : column = column' := by
  rcases Operator.combine_eq_error_iff.1 hcombine with ⟨-, -, rfl⟩ | ⟨-, -, rfl⟩
  · exact hfault
  · exact hfault

/-- A missing or oversized number is no matter of the arithmetic. -/
theorem FactorCourse.not_arithmetic {start stop : Nat} {fault : Fault} {column : Column}
    {events : List Event} (hcourse : FactorCourse entry start (.error fault) events stop) :
    ¬ fault.ArithmeticAt column := by
  intro hfault
  cases hcourse with
  | oversized _ => exact hfault
  | unexpected _ => exact hfault

/-- A product that fails in a term has all of the term in front of it as its left operand. -/
theorem ChainCourse.exists_applied_product (hliterals : Literals entry) {formula : Formula}
    {start middle stop : Nat} {lhs : Int} {fault : Fault} {column : Column} {events : List Event}
    (hcourse : ChainCourse entry (FactorCourse entry) .product lhs middle (.error fault) events
      stop)
    (hterm : IsTerm formula) (hreads : ReadsAs entry formula start middle lhs)
    (hfault : fault.ArithmeticAt column) :
    ∃ sign op left right, op.level = .product ∧
      Applied entry start sign stop op column left right ∧
      op.combine left.value right.value column = .error fault := by
  generalize houtcome : Except.error fault = outcome at hcourse
  induction hcourse generalizing formula with
  | done _ => cases houtcome
  | operandFault _ _ hoperand =>
      cases houtcome
      exact absurd hfault hoperand.not_arithmetic
  | @combineFault middle _ _ rhs op _ _ _ hentry hlevel hoperand hcombine =>
      cases houtcome
      obtain rfl := column_eq_of_combine hcombine hfault
      have hfactor := FactorCourse.readsAs hliterals hoperand
      obtain ⟨hleft, hleftSound, rfl⟩ := hreads
      refine ⟨middle, op, formula, .number rhs, hlevel, ?_, hcombine⟩
      exact {
        grammatical := .term (.combined rhs hlevel hterm)
        entry_eq := hentry
        left_written := hleft
        right_written := hfactor.written
        left_sound := hleftSound
        right_sound := hfactor.sound
        ends := fun hsum => by simp [hlevel] at hsum }
  | step hentry hlevel hoperand hcombine _ ih =>
      have hfactor := FactorCourse.readsAs hliterals hoperand
      exact ih (.combined _ hlevel hterm) (hreads.combine hentry hfactor hcombine) houtcome

theorem TermCourse.exists_applied (hliterals : Literals entry) {start stop : Nat} {fault : Fault}
    {column : Column} {events : List Event}
    (hcourse : TermCourse entry start (.error fault) events stop)
    (hfault : fault.ArithmeticAt column) :
    ∃ sign op left right, op.level = .product ∧
      Applied entry start sign stop op column left right ∧
      op.combine left.value right.value column = .error fault := by
  cases hcourse with
  | fault hoperand => exact absurd hfault hoperand.not_arithmetic
  | chain hoperand hchain =>
      exact hchain.exists_applied_product hliterals (.number _) (hoperand.readsAs hliterals) hfault

/-- An operator that fails in an expression is a sum, with all of the expression in front of it as
its left operand, or a product in a term behind a sum. -/
theorem ChainCourse.exists_applied_sum (hliterals : Literals entry) {formula : Formula}
    {start middle stop : Nat} {lhs : Int} {fault : Fault} {column : Column} {events : List Event}
    (hcourse : ChainCourse entry (TermCourse entry) .sum lhs middle (.error fault) events stop)
    (hgrammatical : formula.Grammatical) (hreads : ReadsAs entry formula start middle lhs)
    (hfault : fault.ArithmeticAt column) :
    ∃ first sign op left right, Begins entry start first op ∧
      Applied entry first sign stop op column left right ∧
      op.combine left.value right.value column = .error fault := by
  generalize houtcome : Except.error fault = outcome at hcourse
  induction hcourse generalizing formula with
  | done _ => cases houtcome
  | @operandFault middle _ _ joint _ _ _ hentry hlevel hoperand =>
      cases houtcome
      obtain ⟨sign, op, left, right, hproduct, happlied, hcombine⟩ :=
        TermCourse.exists_applied hliterals hoperand hfault
      have hle : start ≤ middle := by
        rw [hreads.written.stop_eq]
        exact Nat.le_add_right _ _
      have hjoint : (entry middle).token = .operator joint := by rw [hentry]
      exact ⟨middle + 1, sign, op, left, right,
        .inr ⟨hproduct, middle, joint, rfl, hle, hjoint, hlevel⟩, happlied, hcombine⟩
  | @combineFault middle _ _ _ op _ _ _ hentry hlevel hoperand hcombine =>
      cases houtcome
      obtain rfl := column_eq_of_combine hcombine hfault
      obtain ⟨term, hterm, hright, hrightSound, rfl⟩ := TermCourse.readsAs hliterals hoperand
      obtain ⟨hleft, hleftSound, rfl⟩ := hreads
      refine ⟨start, middle, op, formula, term, .inl rfl, ?_, hcombine⟩
      exact {
        grammatical := .combined hlevel hgrammatical hterm
        entry_eq := hentry
        left_written := hleft
        right_written := hright
        left_sound := hleftSound
        right_sound := hrightSound
        ends := fun _ => TermCourse.ends hoperand }
  | step hentry hlevel hoperand hcombine _ ih =>
      obtain ⟨term, hterm, htermReads⟩ := TermCourse.readsAs hliterals hoperand
      exact ih (.combined hlevel hgrammatical hterm) (hreads.combine hentry htermReads hcombine)
        houtcome

/-- Where a course fails in its arithmetic, it does so at the operator that it has applied last. -/
def FailsApplied (entry : Nat → Lexeme) (course : Course) : Prop :=
  ∀ ⦃start fault events stop column⦄, course start (.error fault) events stop →
    fault.ArithmeticAt column →
    ∃ first sign op left right, Begins entry start first op ∧
      Applied entry first sign stop op column left right ∧
      op.combine left.value right.value column = .error fault

theorem failsApplied_factorCourse : FailsApplied entry (FactorCourse entry) :=
  fun _ _ _ _ _ hcourse hfault => absurd hfault hcourse.not_arithmetic

theorem failsApplied_termCourse (hliterals : Literals entry) :
    FailsApplied entry (TermCourse entry) := by
  intro start fault events stop column hcourse hfault
  obtain ⟨sign, op, left, right, -, happlied, hcombine⟩ :=
    hcourse.exists_applied hliterals hfault
  exact ⟨start, sign, op, left, right, .inl rfl, happlied, hcombine⟩

theorem failsApplied_expressionCourse (hliterals : Literals entry) :
    FailsApplied entry (ExpressionCourse entry) := by
  intro start fault events stop column hcourse hfault
  cases hcourse with
  | fault hoperand => exact failsApplied_termCourse hliterals hoperand hfault
  | chain hoperand hchain =>
      obtain ⟨term, hterm, hreads⟩ := TermCourse.readsAs hliterals hoperand
      exact hchain.exists_applied_sum hliterals (.term hterm) hreads hfault

/-! Divisors. -/

/-- A course fails at each division that it comes to by a literal zero. -/
def FailsAtZero (entry : Nat → Lexeme) (course : Course) : Prop :=
  ∀ ⦃start result events stop⦄, course start result events stop →
    ∀ sign column, start ≤ sign → sign + 2 ≤ stop → entry sign = ⟨.operator .divide, column⟩ →
      (entry (sign + 1)).token = .number 0 → result = .error (.divisionByZero column)

/-- A course that gives a value has read a number last. -/
def EndsWithNumber (entry : Nat → Lexeme) (course : Course) : Prop :=
  ∀ ⦃start n events stop⦄, course start (.ok n) events stop →
    ∃ last m, stop = last + 1 ∧ (entry last).token = .number m

/-- An operator whose right operand is not read with an operand stands behind that operand. -/
theorem EndsWithNumber.le_of_operator {operand : Course} (hlast : EndsWithNumber entry operand)
    {start stop sign : Nat} {n : Int} {op : Operator} {column : Column} {events : List Event}
    (hvalue : operand start (.ok n) events stop) (hsign : entry sign = ⟨.operator op, column⟩)
    (houtside : ¬ sign + 2 ≤ stop) : stop ≤ sign := by
  obtain ⟨last, m, rfl, hnumber⟩ := hlast hvalue
  have hne : sign ≠ last := by
    rintro rfl
    rw [hsign] at hnumber
    cases hnumber
  omega

theorem failsAtZero_factorCourse : FailsAtZero entry (FactorCourse entry) := by
  intro start result events stop hcourse sign column hfrom hto
  cases hcourse <;> omega

/-- An operand that begins with a literal zero is zero. -/
def ReadsZero (entry : Nat → Lexeme) (operand : Course) : Prop :=
  ∀ ⦃start result events stop⦄, operand start result events stop →
    (entry start).token = .number 0 → result = .ok 0

theorem readsZero_factorCourse : ReadsZero entry (FactorCourse entry) := by
  intro start result events stop hcourse hzero
  cases hcourse with
  | number hentry =>
      rw [hentry] at hzero
      cases hzero
      rfl
  | oversized hentry =>
      rw [hentry] at hzero
      cases hzero
  | unexpected hcategory =>
      rw [hzero] at hcategory
      exact absurd rfl hcategory

/-- A division by a literal zero up to the end of an operand is the operator in front of that
operand, which is zero then, or the operand fails there. -/
theorem FailsAtZero.operand_cases {operand : Course} {level : Level}
    (hoperand : FailsAtZero entry operand) (hzero : level = .product → ReadsZero entry operand)
    {start stop sign : Nat} {op : Operator} {column column' : Column} {result : Except Fault Int}
    {events : List Event} (hentry : entry start = ⟨.operator op, column⟩)
    (hlevel : op.level = level) (hcourse : operand (start + 1) result events stop)
    (hfrom : start ≤ sign) (hto : sign + 2 ≤ stop)
    (hsign : entry sign = ⟨.operator .divide, column'⟩)
    (hdivisor : (entry (sign + 1)).token = .number 0) :
    (op = .divide ∧ column = column' ∧ result = .ok 0) ∨
      result = .error (.divisionByZero column') := by
  rcases Nat.eq_or_lt_of_le hfrom with rfl | hlt
  · obtain ⟨rfl, rfl⟩ := operator_eq_of_entry hentry hsign
    exact .inl ⟨rfl, rfl, hzero hlevel.symm hcourse hdivisor⟩
  · exact .inr (hoperand hcourse sign column' hlt hto hsign hdivisor)

/-- The induction is on the course.  The division is the operator at which the course stands, or
it lies in the operand of that operator, or it comes behind the operand. -/
theorem failsAtZero_chainCourse {operand : Course} {level : Level}
    (hoperand : FailsAtZero entry operand) (hlast : EndsWithNumber entry operand)
    (hzero : level = .product → ReadsZero entry operand) (lhs : Int) :
    FailsAtZero entry (ChainCourse entry operand level lhs) := by
  intro start result events stop hcourse
  induction hcourse with
  | done _ =>
      intro sign column hfrom hto
      omega
  | operandFault hentry hlevel hfault =>
      intro sign column hfrom hto hsign hdivisor
      rcases hoperand.operand_cases hzero hentry hlevel hfault hfrom hto hsign hdivisor with
        ⟨-, -, hok⟩ | hfails
      · cases hok
      · exact hfails
  | combineFault hentry hlevel hvalue hcombine =>
      intro sign column hfrom hto hsign hdivisor
      rcases hoperand.operand_cases hzero hentry hlevel hvalue hfrom hto hsign hdivisor with
        ⟨rfl, rfl, hok⟩ | hfails
      · cases hok
        rcases Operator.combine_eq_error_iff.1 hcombine with ⟨-, -, rfl⟩ | ⟨hnonzero, -⟩
        · rfl
        · exact absurd ⟨rfl, rfl⟩ hnonzero
      · cases hfails
  | @step _ middle _ _ _ _ _ _ _ _ _ hentry hlevel hvalue hcombine _ ih =>
      intro sign column hfrom hto hsign hdivisor
      by_cases hinside : sign + 2 ≤ middle
      · -- The combination has succeeded, so its right operand is not zero.
        rcases hoperand.operand_cases hzero hentry hlevel hvalue hfrom hinside hsign hdivisor with
          ⟨rfl, rfl, hok⟩ | hfails
        · cases hok
          exact absurd ⟨rfl, rfl⟩ (Operator.combine_eq_ok_iff.1 hcombine).1
        · cases hfails
      · exact ih sign column (hlast.le_of_operator hvalue hsign hinside) hto hsign hdivisor

theorem failsAtZero_joinedCourse {operand : Course} {level : Level}
    (hoperand : FailsAtZero entry operand) (hlast : EndsWithNumber entry operand)
    (hzero : level = .product → ReadsZero entry operand) :
    FailsAtZero entry (JoinedCourse entry operand level) := by
  intro start result events stop hcourse sign column hfrom hto hsign hdivisor
  cases hcourse with
  | fault hfault => exact hoperand hfault sign column hfrom hto hsign hdivisor
  | @chain _ middle _ _ _ _ _ hvalue hchain =>
      by_cases hinside : sign + 2 ≤ middle
      · cases hoperand hvalue sign column hfrom hinside hsign hdivisor
      · have hbehind := hlast.le_of_operator hvalue hsign hinside
        exact failsAtZero_chainCourse hoperand hlast hzero _ hchain sign column hbehind hto hsign
          hdivisor

theorem failsAtZero_termCourse (hliterals : Literals entry) :
    FailsAtZero entry (TermCourse entry) := by
  apply failsAtZero_joinedCourse failsAtZero_factorCourse
  · intro start n events stop hcourse
    exact (hcourse.readsAs hliterals).written.exists_last
  · exact fun _ => readsZero_factorCourse

theorem failsAtZero_expressionCourse (hliterals : Literals entry) :
    FailsAtZero entry (ExpressionCourse entry) := by
  apply failsAtZero_joinedCourse (failsAtZero_termCourse hliterals)
  · intro start n events stop hcourse
    obtain ⟨term, -, hreads⟩ := hcourse.readsAs hliterals
    exact hreads.written.exists_last
  · intro hlevel
    cases hlevel

end Evaluation

end LineCalculator
