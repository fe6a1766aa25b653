import LineCalculator.Proofs.Course
import LineCalculator.Proofs.SyntaxTree

/-!
# Successful courses and trees of the grammar

Evaluation builds no tree.  Still, a course that gives a value reads exactly one tree of
the grammar: the tree is written by the entries that the course leaves behind, all of its
values exist and fit, its root has the value that is given, and the entry that is current
afterwards cannot continue it.  The other way round, wherever such a tree is written, the
course that reads it exists.

Both directions follow the chains of a course from the left, which is also how the terms
and expressions of the grammar are nested.
-/

namespace LineCalculator

open Evaluation

namespace Formula

/-- A formula is written by the entries from `start` up to, but not including, `stop`. -/
def WrittenBy (entry : Nat → Lexeme) : Formula → Nat → Nat → Prop
  | number n, start, stop => (entry start).token = .number n ∧ stop = start + 1
  | combined op lhs rhs, start, stop =>
      ∃ middle, lhs.WrittenBy entry start middle ∧ (entry middle).token = .operator op ∧
        rhs.WrittenBy entry (middle + 1) stop

/-- A formula is written by a range of entries, and all its values exist, fit and come to
the given one. -/
structure ReadsAs (entry : Nat → Lexeme) (formula : Formula) (start stop : Nat) (n : Int) :
    Prop where
  written : formula.WrittenBy entry start stop
  sound : formula.Sound
  value_eq : formula.value = n

variable {entry : Nat → Lexeme}

/-- A formula takes up as many entries as it has tokens. -/
theorem WrittenBy.stop_eq {formula : Formula} {start stop : Nat}
    (hwritten : formula.WrittenBy entry start stop) : stop = start + formula.spelling.length := by
  induction formula generalizing start stop with
  | number n => exact hwritten.2
  | combined op lhs rhs ihlhs ihrhs =>
      obtain ⟨middle, hlhs, -, hrhs⟩ := hwritten
      rw [ihrhs hrhs, ihlhs hlhs, spelling, List.length_append, List.length_cons]
      omega

/-- Combining two readings, where the combination succeeds. -/
theorem ReadsAs.combine {op : Operator} {lhs rhs : Formula} {start middle stop : Nat}
    {left right result : Int} {column : Column} (hlhs : ReadsAs entry lhs start middle left)
    (hentry : entry middle = ⟨.operator op, column⟩)
    (hrhs : ReadsAs entry rhs (middle + 1) stop right)
    (hcombine : op.combine left right column = .ok result) :
    ReadsAs entry (combined op lhs rhs) start stop result := by
  obtain ⟨hlhs, hlhsSound, rfl⟩ := hlhs
  obtain ⟨hrhs, hrhsSound, rfl⟩ := hrhs
  obtain ⟨hdivisor, hfits, hresult⟩ := Operator.combine_eq_ok_iff.1 hcombine
  exact {
    written := ⟨middle, hlhs, by rw [hentry], hrhs⟩
    sound := ⟨hlhsSound, hrhsSound, hdivisor, hfits⟩
    value_eq := hresult }

end Formula

namespace Evaluation

open Formula

variable {entry : Nat → Lexeme}

/-- Where a chain of neither level goes on, no operator stands. -/
theorem not_operator_of_ends {index : Nat} (hproduct : Ends entry .product index)
    (hsum : Ends entry .sum index) (op : Operator) : (entry index).token ≠ .operator op := by
  intro htoken
  cases hlevel : op.level with
  | sum => exact hsum op htoken hlevel
  | product => exact hproduct op htoken hlevel

/-- Numbers are literals, so they fit and are never negative. -/
def Literals (entry : Nat → Lexeme) : Prop :=
  ∀ index n, (entry index).token = .number n → 0 ≤ n ∧ n ≤ greatestInteger

theorem Literals.representable (hliterals : Literals entry) {index : Nat} {n : Int}
    (htoken : (entry index).token = .number n) : Representable n := by
  obtain ⟨hnonneg, hle⟩ := hliterals index n htoken
  exact ⟨Int.le_trans (by decide) hnonneg, hle⟩

theorem FactorCourse.readsAs (hliterals : Literals entry) {start stop : Nat} {n : Int}
    {events : List Event} (hcourse : FactorCourse entry start (.ok n) events stop) :
    ReadsAs entry (.number n) start stop n := by
  cases hcourse with
  | number hentry =>
      have htoken : (entry start).token = .number n := by rw [hentry]
      exact ⟨⟨htoken, rfl⟩, hliterals.representable htoken, rfl⟩

/-- A chain that gives a value has come to its end. -/
theorem ChainCourse.ends {operand : Course} {level : Level} {start stop : Nat} {lhs n : Int}
    {events : List Event}
    (hcourse : ChainCourse entry operand level lhs start (.ok n) events stop) :
    Ends entry level stop := by
  generalize houtcome : Except.ok n = outcome at hcourse
  induction hcourse with
  | done hends => exact hends
  | operandFault => cases houtcome
  | combineFault => cases houtcome
  | step _ _ _ _ _ ih => exact ih houtcome

theorem TermCourse.ends {start stop : Nat} {n : Int} {events : List Event}
    (hcourse : TermCourse entry start (.ok n) events stop) : Ends entry .product stop := by
  cases hcourse with
  | chain _ hchain => exact hchain.ends

/-- Products that follow a term make a longer term. -/
theorem ChainCourse.readsAs_term (hliterals : Literals entry) {formula : Formula}
    {start middle stop : Nat} {lhs n : Int} {events : List Event}
    (hcourse : ChainCourse entry (FactorCourse entry) .product lhs middle (.ok n) events stop)
    (hterm : IsTerm formula) (hreads : ReadsAs entry formula start middle lhs) :
    ∃ whole, IsTerm whole ∧ ReadsAs entry whole start stop n := by
  -- What the course gives has to be a variable for the induction on the course.
  generalize houtcome : Except.ok n = outcome at hcourse
  induction hcourse generalizing formula with
  | done _ =>
      cases houtcome
      exact ⟨formula, hterm, hreads⟩
  | operandFault => cases houtcome
  | combineFault => cases houtcome
  | step hentry hlevel hoperand hcombine _ ih =>
      have hfactor := FactorCourse.readsAs hliterals hoperand
      have hlonger := hreads.combine hentry hfactor hcombine
      exact ih (.combined _ hlevel hterm) hlonger houtcome

/-- A course of a term that gives a value reads a whole term. -/
theorem TermCourse.readsAs (hliterals : Literals entry) {start stop : Nat} {n : Int}
    {events : List Event} (hcourse : TermCourse entry start (.ok n) events stop) :
    ∃ formula, IsTerm formula ∧ ReadsAs entry formula start stop n := by
  cases hcourse with
  | chain hoperand hchain =>
      exact hchain.readsAs_term hliterals (.number _) (hoperand.readsAs hliterals)

/-- Terms that follow an expression make a longer expression. -/
theorem ChainCourse.readsAs_expression (hliterals : Literals entry) {formula : Formula}
    {start middle stop : Nat} {lhs n : Int} {events : List Event}
    (hcourse : ChainCourse entry (TermCourse entry) .sum lhs middle (.ok n) events stop)
    (hgrammatical : formula.Grammatical) (hreads : ReadsAs entry formula start middle lhs) :
    ∃ whole, whole.Grammatical ∧ ReadsAs entry whole start stop n := by
  generalize houtcome : Except.ok n = outcome at hcourse
  induction hcourse generalizing formula with
  | done _ =>
      cases houtcome
      exact ⟨formula, hgrammatical, hreads⟩
  | operandFault => cases houtcome
  | combineFault => cases houtcome
  | step hentry hlevel hoperand hcombine _ ih =>
      obtain ⟨term, hterm, htermReads⟩ := TermCourse.readsAs hliterals hoperand
      have hlonger := hreads.combine hentry htermReads hcombine
      exact ih (.combined hlevel hgrammatical hterm) hlonger houtcome

/-- A course of an expression that gives a value reads a whole expression. -/
theorem ExpressionCourse.readsAs (hliterals : Literals entry) {start stop : Nat} {n : Int}
    {events : List Event} (hcourse : ExpressionCourse entry start (.ok n) events stop) :
    ∃ formula, formula.Grammatical ∧ ReadsAs entry formula start stop n := by
  cases hcourse with
  | chain hoperand hchain =>
      obtain ⟨term, hterm, hreads⟩ := TermCourse.readsAs hliterals hoperand
      exact hchain.readsAs_expression hliterals (.term hterm) hreads

/-- The products of the last term have come to their end before the sums have. -/
theorem ChainCourse.ends_product {start stop : Nat} {lhs n : Int} {events : List Event}
    (hcourse : ChainCourse entry (TermCourse entry) .sum lhs start (.ok n) events stop)
    (hends : Ends entry .product start) : Ends entry .product stop := by
  generalize houtcome : Except.ok n = outcome at hcourse
  induction hcourse with
  | done _ => exact hends
  | operandFault => cases houtcome
  | combineFault => cases houtcome
  | step _ _ hoperand _ _ ih => exact ih (TermCourse.ends hoperand) houtcome

/-- Behind an expression stands no operator. -/
theorem ExpressionCourse.not_operator {start stop : Nat} {n : Int} {events : List Event}
    (hcourse : ExpressionCourse entry start (.ok n) events stop) (op : Operator) :
    (entry stop).token ≠ .operator op := by
  cases hcourse with
  | chain hoperand hchain =>
      have hproduct := hchain.ends_product (TermCourse.ends hoperand)
      exact not_operator_of_ends hproduct hchain.ends op

/-- The course of a factor that is a number. -/
theorem factorCourse_of_token {start : Nat} {n : Int} (htoken : (entry start).token = .number n) :
    FactorCourse entry start (.ok n) [.scanned (entry (start + 1))] (start + 1) := by
  have hentry := Lexeme.eq_of_token htoken
  exact .number hentry

/-- The combination at the root of a sound formula succeeds. -/
theorem combine_of_sound {op : Operator} {lhs rhs : Formula} (column : Column)
    (hsound : (Formula.combined op lhs rhs).Sound) :
    op.combine lhs.value rhs.value column = .ok (Formula.combined op lhs rhs).value := by
  obtain ⟨-, -, hdivisor, hfits⟩ := hsound
  exact Operator.combine_eq_ok_iff.2 ⟨hdivisor, hfits, rfl⟩

/-- Wherever a sound term is written, a course reads it and then does what a chain of
products does behind it. -/
theorem exists_termCourse_of_chain {formula : Formula} (hterm : IsTerm formula)
    {start middle stop : Nat} {outcome : Except Fault Int} {later : List Event}
    (hwritten : formula.WrittenBy entry start middle) (hsound : formula.Sound)
    (hchain : ChainCourse entry (FactorCourse entry) .product formula.value middle outcome
      later stop) :
    ∃ events, TermCourse entry start outcome events stop := by
  induction hterm generalizing middle later with
  | number n =>
      obtain ⟨htoken, rfl⟩ := hwritten
      exact ⟨_, .chain (factorCourse_of_token htoken) hchain⟩
  | @combined op lhs n hlevel _ ih =>
      obtain ⟨joint, hlhs, hoperator, hnumber, rfl⟩ := hwritten
      have hentry := Lexeme.eq_of_token hoperator
      have hfactor := factorCourse_of_token hnumber
      -- The operator at the root is the last one to be read: it heads the rest of the chain
      -- for the left operand.
      exact ih hlhs hsound.1 (.step hentry hlevel hfactor (combine_of_sound _ hsound) hchain)

/-- A course reads a sound term that no product follows. -/
theorem exists_termCourse {formula : Formula} (hterm : IsTerm formula) {start stop : Nat}
    (hwritten : formula.WrittenBy entry start stop) (hsound : formula.Sound)
    (hends : Ends entry .product stop) :
    ∃ events, TermCourse entry start (.ok formula.value) events stop :=
  exists_termCourse_of_chain hterm hwritten hsound (.done hends)

/-- Wherever a sound expression is written, a course reads it and then does what a chain
of sums does behind it. -/
theorem exists_expressionCourse_of_chain {formula : Formula} (hgrammatical : formula.Grammatical)
    {start middle stop : Nat} {outcome : Except Fault Int} {later : List Event}
    (hwritten : formula.WrittenBy entry start middle) (hsound : formula.Sound)
    (hends : Ends entry .product middle)
    (hchain : ChainCourse entry (TermCourse entry) .sum formula.value middle outcome later stop) :
    ∃ events, ExpressionCourse entry start outcome events stop := by
  induction hgrammatical generalizing middle later with
  | term hterm =>
      obtain ⟨events, hcourse⟩ := exists_termCourse hterm hwritten hsound hends
      exact ⟨_, .chain hcourse hchain⟩
  | @combined op lhs rhs hlevel _ hrhs ih =>
      obtain ⟨joint, hlhsWritten, hoperator, hrhsWritten⟩ := hwritten
      have hentry := Lexeme.eq_of_token hoperator
      obtain ⟨events, hcourse⟩ := exists_termCourse hrhs hrhsWritten hsound.2.1 hends
      refine ih hlhsWritten hsound.1 ?_
        (.step hentry hlevel hcourse (combine_of_sound _ hsound) hchain)
      -- The operator behind the left operand is of the sum level.
      intro other hother hproduct
      rw [hoperator] at hother
      cases hother
      simp [hlevel] at hproduct

/-- A course reads a sound expression that no operator follows. -/
theorem exists_expressionCourse {formula : Formula} (hgrammatical : formula.Grammatical)
    {start stop : Nat} (hwritten : formula.WrittenBy entry start stop) (hsound : formula.Sound)
    (hends : ∀ op, (entry stop).token ≠ .operator op) :
    ∃ events, ExpressionCourse entry start (.ok formula.value) events stop := by
  have hlevel : ∀ level, Ends entry level stop := by
    intro level op htoken
    exact absurd htoken (hends op)
  have hdone : ChainCourse entry (TermCourse entry) .sum formula.value stop (.ok formula.value)
      [] stop := .done (hlevel .sum)
  exact exists_expressionCourse_of_chain hgrammatical hwritten hsound (hlevel .product) hdone

end Evaluation

end LineCalculator
