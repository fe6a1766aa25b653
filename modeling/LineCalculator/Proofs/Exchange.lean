import LineCalculator.Proofs.Displacement

/-!
# Exchanging a term

Two sequences of lexemes that differ in one term of the same value (`Exchange`) correspond in
front of the term and behind it.  A course that goes past the term has to enter it as an
operand: no term reaches over the operator in front of it.  There both sequences give the
value, and the courses go on together behind the term.
-/

namespace LineCalculator

namespace Evaluation

variable {moved : Column → Column → Prop} {entry entry' : Nat → Lexeme}

/-! A term does not reach over an operator of the sum level. -/

/-- A course that starts before an entry or at it does not go on behind it. -/
def StaysUpTo (index : Nat) (course : Course) : Prop :=
  ∀ ⦃start result events stop⦄, course start result events stop → start ≤ index → stop ≤ index

variable {index : Nat} {op : Operator}

theorem staysUpTo_factorCourse (htoken : (entry index).token = .operator op) :
    StaysUpTo index (FactorCourse entry) := by
  intro start result events stop hcourse hle
  have hne : (entry start).token.category = .number → start ≠ index := by
    rintro hcategory rfl
    rw [htoken] at hcategory
    cases hcategory
  cases hcourse with
  | number hentry =>
      have hother := hne (by rw [hentry]; rfl)
      omega
  | oversized hentry =>
      have hother := hne (by rw [hentry]; rfl)
      omega
  | unexpected _ => exact hle

theorem staysUpTo_chainCourse {operand : Course} (hoperand : StaysUpTo index operand)
    {level : Level} (htoken : (entry index).token = .operator op) (hlevel : op.level ≠ level)
    (lhs : Int) : StaysUpTo index (ChainCourse entry operand level lhs) := by
  -- The operators of the chain are of its level, so none of them stands at the entry.
  have hne : ∀ {start op' column}, entry start = ⟨.operator op', column⟩ → op'.level = level →
      start ≠ index := by
    rintro start op' column hentry hlevel' rfl
    rw [hentry] at htoken
    cases htoken
    exact hlevel hlevel'
  intro start result events stop hcourse hle
  induction hcourse with
  | done _ => exact hle
  | operandFault hentry hlevel' hfault =>
      have hother := hne hentry hlevel'
      exact hoperand hfault (by omega)
  | combineFault hentry hlevel' hvalue _ =>
      have hother := hne hentry hlevel'
      exact hoperand hvalue (by omega)
  | step hentry hlevel' hvalue _ _ ih =>
      have hother := hne hentry hlevel'
      exact ih (hoperand hvalue (by omega))

theorem staysUpTo_termCourse (htoken : (entry index).token = .operator op)
    (hlevel : op.level = .sum) : StaysUpTo index (TermCourse entry) := by
  have hproduct : op.level ≠ .product := by simp [hlevel]
  have hfactor := staysUpTo_factorCourse htoken
  intro start result events stop hcourse hle
  cases hcourse with
  | fault hfault => exact hfactor hfault hle
  | chain hvalue hchain =>
      exact staysUpTo_chainCourse hfactor htoken hproduct _ hchain (hfactor hvalue hle)

/-! Two sequences that differ in one term. -/

/-- The entries in front of a term, which ends at `last` on one side and at `last'` on the
other, or the entries behind it. -/
def Beside (first last last' : Nat) (index index' : Nat) : Prop :=
  (index < first ∧ index' = index) ∨ (last ≤ index ∧ index + last' = index' + last)

/-- The places at which an operand can be entered: those beside the term and the term itself. -/
def Enters (first last last' : Nat) (index index' : Nat) : Prop :=
  Beside first last last' index index' ∨ (index = first ∧ index' = first)

/-- Two sequences of lexemes have a term of the same value at the same entry, in front of which
stands an operator of the sum level or nothing, and otherwise differ in related columns only. -/
structure Exchange (moved : Column → Column → Prop) (entry entry' : Nat → Lexeme)
    (first last last' : Nat) (n : Int) : Prop where
  displaced : ∀ index index', Beside first last last' index index' →
    (entry index).Displaced moved (entry' index')
  operator : ∀ index, index + 1 = first →
    ∃ op, (entry index).token = .operator op ∧ op.level = .sum
  course : ∃ events, TermCourse entry first (.ok n) events last
  course' : ∃ events, TermCourse entry' first (.ok n) events last'

variable {first last last' : Nat} {n : Int}

theorem Exchange.corresponds (hexchange : Exchange moved entry entry' first last last' n)
    (limit : Nat) :
    Corresponds moved entry entry' limit (Beside first last last') (Enters first last last') where
  displaced index index' hbeside _ := hexchange.displaced index index' hbeside
  next index index' hbeside _ := by
    unfold Enters Beside at *
    omega

/-- A term that starts in front of the exchanged one also stops there. -/
theorem Exchange.stop_lt (hexchange : Exchange moved entry entry' first last last' n)
    {start stop : Nat} {result : Except Fault Int} {events : List Event}
    (hcourse : TermCourse entry start result events stop) (hlt : start < first) :
    stop < first := by
  cases first with
  | zero => exact absurd hlt (Nat.not_lt_zero start)
  | succ index =>
      obtain ⟨op, htoken, hlevel⟩ := hexchange.operator index rfl
      exact Nat.lt_succ_of_le (staysUpTo_termCourse htoken hlevel hcourse (Nat.le_of_lt_succ hlt))

/-- A term is carried over, in front of the exchanged one, behind it or as that one itself. -/
theorem Exchange.carries_termCourse (hexchange : Exchange moved entry entry' first last last' n)
    (limit : Nat) :
    Carries moved limit (Enters first last last') (Beside first last last') (TermCourse entry)
      (TermCourse entry') := by
  rintro start result events stop start' hcourse - ((⟨hlt, rfl⟩ | hbehind) | ⟨rfl, rfl⟩)
  · -- In front of the term every entry has its own number on both sides.
    have hstop := hexchange.stop_lt hcourse hlt
    have hsame : Corresponds moved entry entry' stop (fun index index' => index = index')
        (fun index index' => index = index') := by
      constructor
      · rintro index _ rfl hle
        exact hexchange.displaced index index (.inl ⟨Nat.lt_of_le_of_lt hle hstop, rfl⟩)
      · rintro index _ rfl _
        rfl
    obtain ⟨result', events', _, hcourse', hresult, rfl⟩ :=
      Evaluation.carries_termCourse hsame hcourse (Nat.le_refl stop) rfl
    exact ⟨_, _, _, hcourse', hresult, .inl ⟨hstop, rfl⟩⟩
  · -- Behind the term the numbers differ by what the terms take up.
    have hshifted : Corresponds moved entry entry' stop
        (fun index index' => last ≤ index ∧ index + last' = index' + last)
        (fun index index' => last ≤ index ∧ index + last' = index' + last) := by
      constructor
      · intro index index' hplace _
        exact hexchange.displaced index index' (.inr hplace)
      · intro index index' hplace _
        omega
    obtain ⟨result', events', stop', hcourse', hresult, hplace⟩ :=
      Evaluation.carries_termCourse hshifted hcourse (Nat.le_refl stop) hbehind
    exact ⟨_, _, _, hcourse', hresult, .inr hplace⟩
  · -- The term itself has one course on each side.
    obtain ⟨events, hown⟩ := hexchange.course
    obtain ⟨events', hcourse'⟩ := hexchange.course'
    obtain ⟨rfl, -, rfl⟩ := functional_termCourse hcourse hown
    exact ⟨_, _, _, hcourse', .ok n, .inr ⟨Nat.le_refl stop, Nat.add_comm stop last'⟩⟩

theorem Exchange.carries_expressionCourse
    (hexchange : Exchange moved entry entry' first last last' n) (limit : Nat) :
    Carries moved limit (Enters first last last') (Beside first last last')
      (ExpressionCourse entry) (ExpressionCourse entry') :=
  carries_joinedCourse forward_termCourse (hexchange.corresponds limit)
    (hexchange.carries_termCourse limit) .sum

end Evaluation

open Evaluation Formula Segmentation

/-- Lines that differ in one term of the same value have the same result, apart from a
column. -/
theorem Evaluation.Exchange.displaced_evaluate {moved : Column → Column → Prop}
    {line line' : String} {first last last' : Nat} {n : Int}
    (hexchange : Exchange moved (stream line.toList) (stream line'.toList) first last last' n)
    (hline : line ≠ "") (hline' : line' ≠ "") (mode : Mode) :
    Displaced moved (evaluate mode line) (evaluate mode line') := by
  obtain ⟨result, events, stop, hcourse⟩ := exists_course line
  have henter : Enters first last last' 0 0 := by
    rcases Nat.eq_zero_or_pos first with rfl | hpos
    · exact .inr ⟨rfl, rfl⟩
    · exact .inl (.inl ⟨hpos, rfl⟩)
  obtain ⟨result', events', stop', hcourse', hresult, hstop⟩ :=
    hexchange.carries_expressionCourse stop hcourse (Nat.le_refl stop) henter
  exact displaced_evaluate_of_courses hline hline' hcourse hcourse' hresult
    (hexchange.displaced stop stop' hstop) mode

end LineCalculator
