import LineCalculator.Evaluation.Grammar
import LineCalculator.Proofs.Scanning

/-!
# The course of an evaluation

Evaluation runs on a state: a scanner somewhere in a line, one lexeme read ahead of it
and a log.  What it does depends on much less, namely on the lexemes that follow each
other in the line.  This file describes evaluation on numbered lexemes alone, rule by
rule and for every way in which a rule can end, and shows that every run takes such a
course.

A course relates the number of the lexeme at which a rule starts, its value or fault,
the events that it logs, and the number of the lexeme that is current afterwards.
-/

namespace LineCalculator

namespace Lookahead

/-- A lookahead stands at an entry of a sequence of lexemes: that entry is the lexeme read
ahead, and scanning goes on with the entries behind it. -/
structure At (entry : Nat → Lexeme) (index : Nat) (s : Lookahead) : Prop where
  current_eq : s.current = entry index
  scan_eq : ∀ count, (s.scanner.after count).scan.1 = entry (index + 1 + count)

variable {entry : Nat → Lexeme} {index : Nat} {s : Lookahead}

theorem at_refill {scanner : Scanner} (log : Array Event)
    (hscan : ∀ count, (scanner.after count).scan.1 = entry (index + count)) :
    (refill scanner log).At entry index where
  current_eq := hscan 0
  scan_eq count := by
    rw [Nat.add_assoc, Nat.add_comm 1 count]
    exact hscan (count + 1)

theorem At.advance (hat : s.At entry index) : s.advance.At entry (index + 1) :=
  at_refill s.log hat.scan_eq

theorem At.record (hat : s.At entry index) (event : Event) : (s.record event).At entry index :=
  ⟨hat.current_eq, hat.scan_eq⟩

theorem At.token_eq (hat : s.At entry index) : s.current.token = (entry index).token := by
  rw [hat.current_eq]

/-- The lexeme that scanning gives next is logged when it is read. -/
theorem At.log_advance (hat : s.At entry index) :
    s.advance.log.toList = s.log.toList ++ [.scanned (entry (index + 1))] := by
  have hnext : s.scanner.scan.1 = entry (index + 1) := hat.scan_eq 0
  rw [← hnext, ← Array.toList_push]
  rfl

theorem log_record (event : Event) (s : Lookahead) :
    (s.record event).log.toList = s.log.toList ++ [event] := by
  rw [← Array.toList_push]
  rfl

/-- A lookahead over the rest of a line stands at the entry that follows those read before. -/
theorem at_ofScanner (line : String) (skipped : Nat) :
    (ofScanner ((Scanner.ofString line).after skipped)).At
      (Segmentation.stream line.toList) skipped := by
  apply at_refill
  intro count
  rw [← Scanner.scan_after_ofString, Scanner.after_after]

end Lookahead

namespace Evaluation

/-- A way in which an evaluation can go: the entry at which it starts, what it gives, what
it logs and the entry at which it leaves the lookahead. -/
abbrev Course := Nat → Except Fault Int → List Event → Nat → Prop

/-- The courses of a factor.  An oversized literal is left behind, anything that is no
number is not. -/
inductive FactorCourse (entry : Nat → Lexeme) : Course
  | number {start : Nat} {n : Int} {column : Column}
      (hentry : entry start = ⟨.number n, column⟩) :
      FactorCourse entry start (.ok n) [.scanned (entry (start + 1))] (start + 1)
  | oversized {start : Nat} {column : Column} (hentry : entry start = ⟨.oversized, column⟩) :
      FactorCourse entry start (.error (.literalTooLarge column))
        [.scanned (entry (start + 1))] (start + 1)
  | unexpected {start : Nat} (hcategory : (entry start).token.category ≠ .number) :
      FactorCourse entry start
        (.error (.unexpected .number (entry start).token (entry start).column)) [] start

/-- No operator of a level stands at an entry, so a chain of that level ends there. -/
def Ends (entry : Nat → Lexeme) (level : Level) (index : Nat) : Prop :=
  ∀ op, (entry index).token = .operator op → op.level ≠ level

/-- An operator at an entry where a chain of some level ends is of the other level. -/
theorem Ends.level_ne {entry : Nat → Lexeme} {level : Level} {index : Nat} {op : Operator}
    {column : Column} (hends : Ends entry level index)
    (hentry : entry index = ⟨.operator op, column⟩) : op.level ≠ level :=
  hends op (by rw [hentry])

/-- The courses of a chain behind its value so far: no operator of the level follows, or
one does and its operand, its combination or the rest of the chain decides. -/
inductive ChainCourse (entry : Nat → Lexeme) (operand : Course) (level : Level) : Int → Course
  | done {start : Nat} {lhs : Int} (hends : Ends entry level start) :
      ChainCourse entry operand level lhs start (.ok lhs) [] start
  | operandFault {start stop : Nat} {lhs : Int} {op : Operator} {column : Column}
      {fault : Fault} {events : List Event}
      (hentry : entry start = ⟨.operator op, column⟩) (hlevel : op.level = level)
      (hoperand : operand (start + 1) (.error fault) events stop) :
      ChainCourse entry operand level lhs start (.error fault)
        (.scanned (entry (start + 1)) :: events) stop
  | combineFault {start stop : Nat} {lhs rhs : Int} {op : Operator} {column : Column}
      {fault : Fault} {events : List Event}
      (hentry : entry start = ⟨.operator op, column⟩) (hlevel : op.level = level)
      (hoperand : operand (start + 1) (.ok rhs) events stop)
      (hcombine : op.combine lhs rhs column = .error fault) :
      ChainCourse entry operand level lhs start (.error fault)
        (.scanned (entry (start + 1)) :: events) stop
  | step {start middle stop : Nat} {lhs rhs result : Int} {op : Operator} {column : Column}
      {outcome : Except Fault Int} {events later : List Event}
      (hentry : entry start = ⟨.operator op, column⟩) (hlevel : op.level = level)
      (hoperand : operand (start + 1) (.ok rhs) events middle)
      (hcombine : op.combine lhs rhs column = .ok result)
      (hmore : ChainCourse entry operand level result middle outcome later stop) :
      ChainCourse entry operand level lhs start outcome
        (.scanned (entry (start + 1)) :: events ++ .combined lhs op rhs result :: later) stop

/-- The courses of operands joined by operators of one level. -/
inductive JoinedCourse (entry : Nat → Lexeme) (operand : Course) (level : Level) : Course
  | fault {start stop : Nat} {fault : Fault} {events : List Event}
      (hoperand : operand start (.error fault) events stop) :
      JoinedCourse entry operand level start (.error fault) events stop
  | chain {start middle stop : Nat} {first : Int} {outcome : Except Fault Int}
      {events later : List Event} (hoperand : operand start (.ok first) events middle)
      (hchain : ChainCourse entry operand level first middle outcome later stop) :
      JoinedCourse entry operand level start outcome (events ++ later) stop

/-- The courses of a term. -/
def TermCourse (entry : Nat → Lexeme) : Course :=
  JoinedCourse entry (FactorCourse entry) .product

/-- The courses of an expression. -/
def ExpressionCourse (entry : Nat → Lexeme) : Course :=
  JoinedCourse entry (TermCourse entry) .sum

/-- Every run of a computation, from any state that stands at an entry, takes one of the
given courses. -/
def Takes (entry : Nat → Lexeme) (x : Evaluation Int) (course : Course) : Prop :=
  ∀ (s : Lookahead) (start : Nat), s.At entry start →
    ∃ events stop, course start (outcome (x.run s)) events stop ∧
      (stateAfter (x.run s)).At entry stop ∧
      (stateAfter (x.run s)).log.toList = s.log.toList ++ events

variable {entry : Nat → Lexeme}

/-- A factor refuses anything that is no number without moving. -/
theorem run_factor_of_category_ne {s : Lookahead}
    (hcategory : s.current.token.category ≠ .number) :
    factor.run s = .error (.unexpected .number s.current.token s.current.column) s := by
  rw [run_factor]
  cases htoken : s.current.token <;> simp_all [Token.category]

theorem takes_factor : Takes entry factor (FactorCourse entry) := by
  intro s start hat
  by_cases hcategory : s.current.token.category = .number
  · -- Of the tokens of this category one is read as a factor and one is refused.
    have hcurrent : entry start = ⟨s.current.token, s.current.column⟩ := hat.current_eq.symm
    rw [run_factor]
    cases htoken : s.current.token with
    | number n =>
        rw [htoken] at hcurrent
        exact ⟨_, _, .number hcurrent, hat.advance, hat.log_advance⟩
    | oversized =>
        rw [htoken] at hcurrent
        exact ⟨_, _, .oversized hcurrent, hat.advance, hat.log_advance⟩
    | operator op => simp [htoken, Token.category] at hcategory
    | invalid c => simp [htoken, Token.category] at hcategory
    | endOfLine => simp [htoken, Token.category] at hcategory
  · rw [run_factor_of_category_ne hcategory, hat.current_eq]
    rw [hat.current_eq] at hcategory
    exact ⟨_, _, .unexpected hcategory, hat, (List.append_nil _).symm⟩

/-- What a chain does at an operator of its level. -/
theorem run_chain_of_operator {operand : Operand} {level : Level} {lhs : Int} {op : Operator}
    {s : Lookahead} (hop : s.operator? level = some op) :
    (chain operand level lhs).run s =
      match operand.read.run s.advance with
      | .error fault s' => .error fault s'
      | .ok rhs s' =>
          match op.combine lhs rhs s.current.column with
          | .error fault => .error fault s'
          | .ok result =>
              (chain operand level result).run (s'.record (.combined lhs op rhs result)) := by
  have htoken := (Lookahead.operator?_eq_some_iff.1 hop).1
  rw [run_chain, hop]
  dsimp only
  rw [EStateM.run_bind, run_combineNext operand.read lhs htoken]
  cases operand.read.run s.advance with
  | error fault s' => rfl
  | ok rhs s' =>
      dsimp only
      cases op.combine lhs rhs s.current.column <;> rfl

/-- A chain takes its courses if its operand does.  The induction is on what is still
ahead: an operator and its operand take at least the operator. -/
theorem Takes.chain {operand : Operand} {course : Course}
    (hoperand : Takes entry operand.read course) (level : Level) (lhs : Int) :
    Takes entry (Evaluation.chain operand level lhs) (ChainCourse entry course level lhs) := by
  intro s start hat
  induction hsize : s.remaining using Nat.strongRecOn generalizing lhs s start with
  | _ size ih =>
      subst hsize
      cases hop : s.operator? level with
      | none =>
          -- The chain ends here, so no operator of its level may stand at the entry.
          rw [run_chain, hop]
          refine ⟨_, _, .done ?_, hat, (List.append_nil _).symm⟩
          intro op htoken hlevel
          rw [← hat.token_eq] at htoken
          simp [Lookahead.operator?_eq_some_iff.2 ⟨htoken, hlevel⟩] at hop
      | some op =>
          obtain ⟨htoken, hlevel⟩ := Lookahead.operator?_eq_some_iff.1 hop
          have hentry : entry start = ⟨.operator op, s.current.column⟩ := by
            rw [← hat.current_eq, ← htoken]
          -- The operand is read from the entry behind the operator, whatever it gives.
          obtain ⟨events, middle, hcourse, hmiddle, hlog⟩ := hoperand _ _ hat.advance
          rw [hat.log_advance, List.append_assoc, List.singleton_append] at hlog
          rw [run_chain_of_operator hop]
          cases hread : operand.read.run s.advance with
          | error fault s' =>
              rw [hread] at hcourse hmiddle hlog
              exact ⟨_, _, .operandFault hentry hlevel hcourse, hmiddle, hlog⟩
          | ok rhs s' =>
              rw [hread] at hcourse hmiddle hlog
              dsimp only
              cases hcombine : op.combine lhs rhs s.current.column with
              | error fault =>
                  exact ⟨_, _, .combineFault hentry hlevel hcourse hcombine, hmiddle, hlog⟩
              | ok result =>
                  -- The rest of the chain starts nearer to the end of the line.
                  have hlt := remaining_operand_lt operand hop
                  rw [hread] at hlt
                  obtain ⟨later, stop, hmore, hstop, hlater⟩ :=
                    ih _ hlt result (s'.record (.combined lhs op rhs result)) middle
                      (Lookahead.At.record hmiddle _) rfl
                  refine ⟨_, _, .step hentry hlevel hcourse hcombine hmore, hstop, ?_⟩
                  have hbefore : s'.log.toList =
                      s.log.toList ++ .scanned (entry (start + 1)) :: events := hlog
                  rw [hlater, Lookahead.log_record, hbefore]
                  simp

theorem Takes.joined {operand : Operand} {course : Course}
    (hoperand : Takes entry operand.read course) (level : Level) :
    Takes entry (Evaluation.joined operand level) (JoinedCourse entry course level) := by
  intro s start hat
  obtain ⟨events, middle, hcourse, hmiddle, hlog⟩ := hoperand s start hat
  unfold Evaluation.joined
  rw [EStateM.run_bind]
  cases hread : operand.read.run s with
  | error fault s' =>
      rw [hread] at hcourse hmiddle hlog
      exact ⟨_, _, .fault hcourse, hmiddle, hlog⟩
  | ok first s' =>
      rw [hread] at hcourse hmiddle hlog
      obtain ⟨later, stop, hchain, hstop, hlater⟩ :=
        hoperand.chain level first s' middle hmiddle
      refine ⟨_, _, .chain hcourse hchain, hstop, ?_⟩
      rw [hlater, ← List.append_assoc, ← hlog]
      rfl

theorem takes_term : Takes entry term (TermCourse entry) :=
  @Takes.joined entry ⟨factor, advances_factor⟩ _ takes_factor .product

theorem takes_expression : Takes entry expression (ExpressionCourse entry) :=
  @Takes.joined entry ⟨term, advances_joined _ _⟩ _ takes_term .sum

/-! From one entry on there is only one course, so a course that has been found by other
means is the one that a run takes. -/

/-- At most one way to go from each entry. -/
def Functional (course : Course) : Prop :=
  ∀ ⦃start outcome events stop outcome' events' stop'⦄,
    course start outcome events stop → course start outcome' events' stop' →
      outcome = outcome' ∧ events = events' ∧ stop = stop'

theorem functional_factorCourse : Functional (FactorCourse entry) := by
  intro start outcome events stop outcome' events' stop' h h'
  cases h with
  | number hentry =>
      cases h' with
      | number hentry' => simp_all
      | oversized hentry' => simp [hentry] at hentry'
      | unexpected hcategory => simp [hentry, Token.category] at hcategory
  | oversized hentry =>
      cases h' with
      | number hentry' => simp [hentry] at hentry'
      | oversized hentry' => simp_all
      | unexpected hcategory => simp [hentry, Token.category] at hcategory
  | unexpected hcategory =>
      cases h' with
      | number hentry' => simp [hentry', Token.category] at hcategory
      | oversized hentry' => simp [hentry', Token.category] at hcategory
      | unexpected _ => exact ⟨rfl, rfl, rfl⟩

/-- One operator stands at an entry, at one column. -/
theorem operator_eq_of_entry {index : Nat} {op op' : Operator} {column column' : Column}
    (hentry : entry index = ⟨.operator op, column⟩)
    (hentry' : entry index = ⟨.operator op', column'⟩) : op = op' ∧ column = column' := by
  rw [hentry] at hentry'
  cases hentry'
  exact ⟨rfl, rfl⟩

/-- The induction follows one of the two courses.  The other one cannot leave it: whether
the chain ends is decided at the entry, what the operand gives by the operand, and what
the combination gives by the operator and its operands. -/
theorem functional_chainCourse {operand : Course} (hoperand : Functional operand) (level : Level)
    (lhs : Int) : Functional (ChainCourse entry operand level lhs) := by
  intro start outcome events stop outcome' events' stop' h h'
  induction h generalizing outcome' events' stop' with
  | done hends =>
      cases h' with
      | done _ => exact ⟨rfl, rfl, rfl⟩
      | operandFault hentry hlevel _ => exact absurd hlevel (hends.level_ne hentry)
      | combineFault hentry hlevel _ _ => exact absurd hlevel (hends.level_ne hentry)
      | step hentry hlevel _ _ _ => exact absurd hlevel (hends.level_ne hentry)
  | operandFault hentry hlevel hfault =>
      cases h' with
      | done hends => exact absurd hlevel (hends.level_ne hentry)
      | operandFault _ _ hfault' =>
          obtain ⟨hsame, rfl, rfl⟩ := hoperand hfault hfault'
          cases hsame
          exact ⟨rfl, rfl, rfl⟩
      | combineFault _ _ hvalue _ => cases (hoperand hfault hvalue).1
      | step _ _ hvalue _ _ => cases (hoperand hfault hvalue).1
  | combineFault hentry hlevel hvalue hcombine =>
      cases h' with
      | done hends => exact absurd hlevel (hends.level_ne hentry)
      | operandFault _ _ hfault => cases (hoperand hfault hvalue).1
      | combineFault hentry' _ hvalue' hcombine' =>
          obtain ⟨hsame, rfl, rfl⟩ := hoperand hvalue hvalue'
          cases hsame
          obtain ⟨rfl, rfl⟩ := operator_eq_of_entry hentry hentry'
          rw [hcombine] at hcombine'
          cases hcombine'
          exact ⟨rfl, rfl, rfl⟩
      | step hentry' _ hvalue' hcombine' _ =>
          cases (hoperand hvalue hvalue').1
          obtain ⟨rfl, rfl⟩ := operator_eq_of_entry hentry hentry'
          rw [hcombine] at hcombine'
          cases hcombine'
  | step hentry hlevel hvalue hcombine _ ih =>
      cases h' with
      | done hends => exact absurd hlevel (hends.level_ne hentry)
      | operandFault _ _ hfault => cases (hoperand hfault hvalue).1
      | combineFault hentry' _ hvalue' hcombine' =>
          cases (hoperand hvalue hvalue').1
          obtain ⟨rfl, rfl⟩ := operator_eq_of_entry hentry hentry'
          rw [hcombine] at hcombine'
          cases hcombine'
      | step hentry' _ hvalue' hcombine' hmore' =>
          obtain ⟨hsame, rfl, rfl⟩ := hoperand hvalue hvalue'
          cases hsame
          obtain ⟨rfl, rfl⟩ := operator_eq_of_entry hentry hentry'
          rw [hcombine] at hcombine'
          cases hcombine'
          obtain ⟨rfl, rfl, rfl⟩ := ih hmore'
          exact ⟨rfl, rfl, rfl⟩

theorem functional_joinedCourse {operand : Course} (hoperand : Functional operand)
    (level : Level) : Functional (JoinedCourse entry operand level) := by
  intro start outcome events stop outcome' events' stop' h h'
  cases h with
  | fault hfault =>
      cases h' with
      | fault hfault' =>
          obtain ⟨hsame, rfl, rfl⟩ := hoperand hfault hfault'
          cases hsame
          exact ⟨rfl, rfl, rfl⟩
      | chain hvalue _ => cases (hoperand hfault hvalue).1
  | chain hvalue hchain =>
      cases h' with
      | fault hfault => cases (hoperand hfault hvalue).1
      | chain hvalue' hchain' =>
          obtain ⟨hsame, rfl, rfl⟩ := hoperand hvalue hvalue'
          cases hsame
          obtain ⟨rfl, rfl, rfl⟩ := functional_chainCourse hoperand level _ hchain hchain'
          exact ⟨rfl, rfl, rfl⟩

theorem functional_termCourse : Functional (TermCourse entry) :=
  functional_joinedCourse functional_factorCourse .product

theorem functional_expressionCourse : Functional (ExpressionCourse entry) :=
  functional_joinedCourse functional_termCourse .sum

/-- A course that starts where a lookahead stands is the one that the run takes. -/
theorem Takes.eq_of_course {x : Evaluation Int} {course : Course} (hx : Takes entry x course)
    (hfunctional : Functional course) {s : Lookahead} {start stop : Nat}
    {result : Except Fault Int} {events : List Event} (hat : s.At entry start)
    (hcourse : course start result events stop) :
    outcome (x.run s) = result ∧ (stateAfter (x.run s)).At entry stop := by
  obtain ⟨events', stop', hrun, hafter, -⟩ := hx s start hat
  obtain ⟨hresult, -, rfl⟩ := hfunctional hrun hcourse
  exact ⟨hresult, hafter⟩

end Evaluation

end LineCalculator
