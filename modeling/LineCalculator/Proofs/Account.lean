import LineCalculator.Proofs.Derivation

/-!
# Accounts of an evaluation

A course can stop in the middle of an expression, where a combination fails or where an
operand is missing.  What has been combined until then is accounted for by a tree of the
grammar in every case:

* where there is a value, by the tree that has been read, of which all combinations are done,
* where a combination fails, by the tree that has been read, of which the combinations in
  front of that one are done,
* where an operand is missing, by a tree that the line holds but for its last number, of
  which the combinations that do not need that number are done.

Main statement: `accounted_expressionCourse`.  A chain is accounted for with the tree in
front of it, which grows by one operand at each step; this is one induction for both levels.
-/

namespace LineCalculator

namespace Event

/-- The event of a combination. -/
def isCombined : Event → Bool
  | combined _ _ _ _ => true
  | _ => false

/-- What a combination gives exists and fits. -/
def Stands : Event → Prop
  | combined _ op rhs result => ¬ (op = .divide ∧ rhs = 0) ∧ Representable result
  | _ => True

end Event

open Evaluation

namespace Formula

/-- The combinations of a formula that do not need its last number, operands before what they
are operands of. -/
def settled : Formula → List Event
  | number _ => []
  | combined _ lhs rhs => lhs.combinations ++ rhs.settled

/-- The entries from `start` up to, but not including, `stop` write a formula but for its last
number. -/
def BrokenOff (entry : Nat → Lexeme) : Formula → Nat → Nat → Prop
  | number _, start, stop => stop = start
  | combined op lhs rhs, start, stop =>
      ∃ middle, lhs.WrittenBy entry start middle ∧ (entry middle).token = .operator op ∧
        rhs.BrokenOff entry (middle + 1) stop

/-- All combinations of a sound formula stand. -/
theorem Sound.stands {formula : Formula} (hsound : formula.Sound) :
    ∀ event ∈ formula.combinations, event.Stands := by
  induction formula with
  | number n => simp [combinations]
  | combined op lhs rhs ihlhs ihrhs =>
      obtain ⟨hlhs, hrhs, hroot⟩ := hsound
      intro event hevent
      rw [combinations, List.mem_append, List.mem_append, List.mem_singleton] at hevent
      rcases hevent with (hevent | hevent) | rfl
      · exact ihlhs hlhs event hevent
      · exact ihrhs hrhs event hevent
      · exact hroot

end Formula

namespace Evaluation

open Formula

/-- What a course gives and the combinations that it has done, by a tree of a given kind that
begins where the course starts. -/
inductive Account (entry : Nat → Lexeme) (kind : Formula → Prop) : Course
  /-- The tree has been read and has a value. -/
  | value {formula : Formula} {start stop : Nat} (hkind : kind formula)
      (hwritten : formula.WrittenBy entry start stop) (hsound : formula.Sound) :
      Account entry kind start (.ok formula.value) formula.combinations stop
  /-- The tree has been read up to the right operand of the first combination that fails. -/
  | failed {formula : Formula} {start stop sign : Nat} {op : Operator} {lhs rhs : Int}
      {column : Column} {fault : Fault} {done later : List Event} (hkind : kind formula)
      (hwritten : formula.WrittenBy entry start stop)
      (hdone : formula.combinations = done ++ .combined lhs op rhs (op.exact lhs rhs) :: later)
      (hstands : ∀ event ∈ done, event.Stands) (hbefore : sign < stop)
      (hentry : entry sign = ⟨.operator op, column⟩)
      (hcombine : op.combine lhs rhs column = .error fault) :
      Account entry kind start (.error fault) done stop
  /-- The last number of the tree is missing. -/
  | missing {formula : Formula} {start stop : Nat} (hkind : kind formula)
      (hbroken : formula.BrokenOff entry start stop)
      (hcategory : (entry stop).token.category ≠ .number) :
      Account entry kind start
        (.error (.unexpected .number (entry stop).token (entry stop).column)) formula.settled stop
  /-- The last number of the tree is too large. -/
  | oversized {formula : Formula} {start literal : Nat} {column : Column} (hkind : kind formula)
      (hbroken : formula.BrokenOff entry start literal)
      (hentry : entry literal = ⟨.oversized, column⟩) :
      Account entry kind start (.error (.literalTooLarge column)) formula.settled (literal + 1)

/-- Trees of a kind account for all courses, as far as what they give and combine goes. -/
def AccountedBy (entry : Nat → Lexeme) (kind : Formula → Prop) (course : Course) : Prop :=
  ∀ ⦃start result events stop⦄, course start result events stop →
    Account entry kind start result (events.filter Event.isCombined) stop

variable {entry : Nat → Lexeme} {kind whole : Formula → Prop}

theorem Account.mono {start stop : Nat} {result : Except Fault Int} {done : List Event}
    (haccount : Account entry kind start result done stop)
    (hsub : ∀ formula, kind formula → whole formula) :
    Account entry whole start result done stop := by
  cases haccount with
  | value hkind hwritten hsound => exact .value (hsub _ hkind) hwritten hsound
  | failed hkind hwritten hdone hstands hbefore hentry hcombine =>
      exact .failed (hsub _ hkind) hwritten hdone hstands hbefore hentry hcombine
  | missing hkind hbroken hcategory => exact .missing (hsub _ hkind) hbroken hcategory
  | oversized hkind hbroken hentry => exact .oversized (hsub _ hkind) hbroken hentry

/-- A value is accounted for by a reading. -/
theorem Account.exists_formula {start stop : Nat} {n : Int} {done : List Event}
    (haccount : Account entry kind start (.ok n) done stop) :
    ∃ formula, kind formula ∧ ReadsAs entry formula start stop n ∧ formula.combinations = done := by
  cases haccount with
  | value hkind hwritten hsound => exact ⟨_, hkind, ⟨hwritten, hsound, rfl⟩, rfl⟩

/-- A fault of an operand is one of the tree of which it is the right operand. -/
theorem Account.behind {formula : Formula} {op : Operator} {start middle stop : Nat} {lhs : Int}
    {column : Column} {fault : Fault} {done : List Event}
    (hreads : ReadsAs entry formula start middle lhs)
    (hentry : entry middle = ⟨.operator op, column⟩)
    (hwhole : ∀ operand, kind operand → whole (.combined op formula operand))
    (haccount : Account entry kind (middle + 1) (.error fault) done stop) :
    Account entry whole start (.error fault) (formula.combinations ++ done) stop := by
  have htoken : (entry middle).token = .operator op := by rw [hentry]
  cases haccount with
  | @failed operand _ _ _ op' lhs' rhs' _ _ _ later hkind hwritten hdone hstands hbefore hsign
      hcombine =>
      have hcombinations : (Formula.combined op formula operand).combinations =
          (formula.combinations ++ done) ++ .combined lhs' op' rhs' (op'.exact lhs' rhs') ::
            (later ++ [.combined formula.value op operand.value
              (op.exact formula.value operand.value)]) := by
        rw [combinations, hdone]
        simp only [List.append_assoc, List.cons_append]
      refine .failed (hwhole _ hkind) ⟨middle, hreads.written, htoken, hwritten⟩ hcombinations ?_
        hbefore hsign hcombine
      intro event hevent
      rcases List.mem_append.1 hevent with hevent | hevent
      · exact hreads.sound.stands event hevent
      · exact hstands event hevent
  | missing hkind hbroken hcategory =>
      exact .missing (hwhole _ hkind) ⟨middle, hreads.written, htoken, hbroken⟩ hcategory
  | oversized hkind hbroken hliteral =>
      exact .oversized (hwhole _ hkind) ⟨middle, hreads.written, htoken, hbroken⟩ hliteral

/-- A chain is accounted for together with the tree in front of it.  The induction is on the
course, and the tree grows by one operand at each step. -/
theorem AccountedBy.chain {operand : Course} {level : Level}
    (hoperand : AccountedBy entry kind operand)
    (hwhole : ∀ op lhs rhs, op.level = level → whole lhs → kind rhs → whole (.combined op lhs rhs))
    {formula : Formula} {start middle stop : Nat} {lhs : Int} {result : Except Fault Int}
    {events : List Event} (hcourse : ChainCourse entry operand level lhs middle result events stop)
    (hformula : whole formula) (hreads : ReadsAs entry formula start middle lhs) :
    Account entry whole start result
      (formula.combinations ++ events.filter Event.isCombined) stop := by
  induction hcourse generalizing formula with
  | done _ =>
      obtain ⟨hwritten, hsound, rfl⟩ := hreads
      rw [List.filter_nil, List.append_nil]
      exact .value hformula hwritten hsound
  | operandFault hentry hlevel hfault =>
      exact (hoperand hfault).behind hreads hentry fun rhs => hwhole _ _ rhs hlevel hformula
  | @combineFault middle stop lhs rhs op column fault events hentry hlevel hvalue hcombine =>
      obtain ⟨operand, hkind, hrhs, hdone⟩ := (hoperand hvalue).exists_formula
      obtain ⟨hwritten, hsound, rfl⟩ := hreads
      obtain ⟨hoperandWritten, hoperandSound, rfl⟩ := hrhs
      have htoken : (entry middle).token = .operator op := by rw [hentry]
      have hbefore : middle < stop := by
        have hstop := hoperandWritten.stop_eq
        omega
      have hevents : (Event.scanned (entry (middle + 1)) :: events).filter Event.isCombined =
          operand.combinations := hdone.symm
      rw [hevents]
      refine .failed (hwhole op _ _ hlevel hformula hkind)
        ⟨middle, hwritten, htoken, hoperandWritten⟩ rfl ?_ hbefore hentry hcombine
      intro event hevent
      rcases List.mem_append.1 hevent with hevent | hevent
      · exact hsound.stands event hevent
      · exact hoperandSound.stands event hevent
  | @step middle _ _ lhs rhs result op column _ events later hentry hlevel hvalue hcombine _ ih =>
      obtain ⟨operand, hkind, hrhs, hdone⟩ := (hoperand hvalue).exists_formula
      have hlonger := hreads.combine hentry hrhs hcombine
      have haccount := ih (hwhole op _ _ hlevel hformula hkind) hlonger
      obtain ⟨-, -, rfl⟩ := hreads
      obtain ⟨-, -, rfl⟩ := hrhs
      obtain ⟨-, -, rfl⟩ := Operator.combine_eq_ok_iff.1 hcombine
      have hevents : (Event.scanned (entry (middle + 1)) :: events ++
          .combined formula.value op operand.value (op.exact formula.value operand.value) ::
            later).filter Event.isCombined =
          operand.combinations ++
            .combined formula.value op operand.value (op.exact formula.value operand.value) ::
              later.filter Event.isCombined := by
        rw [hdone, List.filter_append]
        rfl
      rw [hevents]
      simpa only [combinations, List.append_assoc, List.singleton_append] using haccount

theorem AccountedBy.joined {operand : Course} {level : Level}
    (hoperand : AccountedBy entry kind operand) (hsub : ∀ formula, kind formula → whole formula)
    (hwhole : ∀ op lhs rhs, op.level = level → whole lhs → kind rhs →
      whole (.combined op lhs rhs)) :
    AccountedBy entry whole (JoinedCourse entry operand level) := by
  intro start result events stop hcourse
  cases hcourse with
  | fault hfault => exact (hoperand hfault).mono hsub
  | chain hvalue hchain =>
      obtain ⟨formula, hkind, hreads, hdone⟩ := (hoperand hvalue).exists_formula
      rw [List.filter_append, ← hdone]
      exact hoperand.chain hwhole hchain (hsub formula hkind) hreads

/-- A factor is accounted for by a number, also where the number is missing. -/
theorem accounted_factorCourse (hliterals : Literals entry) :
    AccountedBy entry (fun formula => ∃ n, formula = .number n) (FactorCourse entry) := by
  intro start result events stop hcourse
  cases hcourse with
  | @number _ n _ hentry =>
      have htoken : (entry start).token = .number n := by rw [hentry]
      have hwritten : (number n).WrittenBy entry start (start + 1) := ⟨htoken, rfl⟩
      exact .value ⟨n, rfl⟩ hwritten (hliterals.representable htoken)
  | oversized hentry =>
      have hbroken : (number 0).BrokenOff entry start start := rfl
      exact .oversized ⟨0, rfl⟩ hbroken hentry
  | unexpected hcategory =>
      have hbroken : (number 0).BrokenOff entry start start := rfl
      exact .missing ⟨0, rfl⟩ hbroken hcategory

theorem accounted_termCourse (hliterals : Literals entry) :
    AccountedBy entry IsTerm (TermCourse entry) := by
  refine (accounted_factorCourse hliterals).joined ?_ ?_
  · rintro _ ⟨n, rfl⟩
    exact .number n
  · rintro op lhs _ hlevel hlhs ⟨n, rfl⟩
    exact .combined n hlevel hlhs

/-- An expression is accounted for by a tree of the grammar. -/
theorem accounted_expressionCourse (hliterals : Literals entry) :
    AccountedBy entry Grammatical (ExpressionCourse entry) := by
  refine (accounted_termCourse hliterals).joined ?_ ?_
  · intro formula hterm
    exact .term hterm
  · intro op lhs rhs hlevel hlhs hrhs
    exact .combined hlevel hlhs hrhs

end Evaluation

end LineCalculator
