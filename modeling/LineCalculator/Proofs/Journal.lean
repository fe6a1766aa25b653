import LineCalculator.Proofs.Account
import LineCalculator.Proofs.WholeLine

/-!
# The journal of a run

The events of a run are a faithful record of it, whether or not it succeeds.

* The lexemes on record are the first entries of the stream of the line, each of them once
  and in order, up to the one that is read ahead at the end.
* The combinations on record are those of the tree that accounts for the run.
* A combination is put on record as soon as it can be: the last entry on record is then the
  one behind its right operand, and between the two stands at most the product that
  completes the right operand of a sum.
* A total is on record exactly where there is a value, and then once and at the end.

The invariant is on everything that has been put on record since the beginning (`Journal`).
A course that starts behind such a record goes on with it (`Continues`).

Main statement: `evaluateWithEvents_recorded`.
-/

namespace LineCalculator

open Evaluation Formula

namespace Event

/-- The lexeme that an event reports. -/
def lexeme? : Event → Option Lexeme
  | scanned lexeme => some lexeme
  | _ => none

/-- The total that an event reports. -/
def total? : Event → Option Int
  | totalled result => some result
  | _ => none

/-- Any other event leaves the combinations on record as they are. -/
theorem filter_isCombined_concat (events : List Event) {event : Event}
    (hevent : event.isCombined = false) :
    (events ++ [event]).filter isCombined = events.filter isCombined := by
  rw [List.filter_append, List.filter_singleton, hevent]
  exact List.append_nil _

/-- What is on record in front of a combination.  Its right operand is a term that ends before
the last entry on record.  Directly in front of the combination stands that entry; or the
combination is a sum, and there stands the product whose result is its right operand. -/
def ComesBehind (entry : Nat → Lexeme) (before : List Event) : Event → Prop
  | combined _ op rhs _ =>
      ∃ sign stop column term, entry sign = ⟨.operator op, column⟩ ∧ IsTerm term ∧
        ReadsAs entry term (sign + 1) stop rhs ∧
        before.filterMap lexeme? = (List.range (stop + 1)).map entry ∧
        (before.getLast? = some (.scanned (entry stop)) ∨
          op.level = .sum ∧ ∃ lhs' op' rhs', op'.level = .product ∧
            before.getLast? = some (.combined lhs' op' rhs' rhs))
  | _ => True

end Event

/-- A record of the first lexemes of a sequence, their number being `logged`, and of some
totals, in which each combination comes where it has to. -/
structure Journal (entry : Nat → Lexeme) (logged : Nat) (totals : List Int)
    (events : List Event) : Prop where
  lexemes_eq : events.filterMap Event.lexeme? = (List.range logged).map entry
  totals_eq : events.filterMap Event.total? = totals
  comesBehind : ∀ before event after, events = before ++ event :: after →
    event.ComesBehind entry before

namespace Journal

variable {entry : Nat → Lexeme} {logged : Nat} {totals : List Int} {events : List Event}

theorem nil (entry : Nat → Lexeme) : Journal entry 0 [] [] where
  lexemes_eq := rfl
  totals_eq := rfl
  comesBehind before event after hsplit := by simp at hsplit

/-- One more event comes where it has to if it does so behind the whole record. -/
theorem comesBehind_concat (hjournal : Journal entry logged totals events) {event : Event}
    (hevent : event.ComesBehind entry events) :
    ∀ before other after, events ++ [event] = before ++ other :: after →
      other.ComesBehind entry before := by
  intro before other after hsplit
  rcases List.eq_nil_or_concat after with rfl | ⟨after, last, rfl⟩
  · obtain ⟨rfl, hlast⟩ := List.append_inj' hsplit rfl
    cases hlast
    exact hevent
  · rw [List.concat_eq_append, ← List.cons_append, ← List.append_assoc] at hsplit
    obtain ⟨rfl, -⟩ := List.append_inj' hsplit rfl
    exact hjournal.comesBehind before other after rfl

/-- Reading the next lexeme. -/
theorem scan (hjournal : Journal entry logged totals events) :
    Journal entry (logged + 1) totals (events ++ [.scanned (entry logged)]) where
  lexemes_eq := by
    rw [List.filterMap_append, hjournal.lexemes_eq, List.range_succ, List.map_append]
    rfl
  totals_eq := by
    rw [List.filterMap_append, hjournal.totals_eq]
    exact List.append_nil _
  comesBehind := hjournal.comesBehind_concat trivial

theorem combine (hjournal : Journal entry logged totals events) {lhs rhs result : Int}
    {op : Operator} (hevent : (Event.combined lhs op rhs result).ComesBehind entry events) :
    Journal entry logged totals (events ++ [.combined lhs op rhs result]) where
  lexemes_eq := by
    rw [List.filterMap_append, hjournal.lexemes_eq]
    exact List.append_nil _
  totals_eq := by
    rw [List.filterMap_append, hjournal.totals_eq]
    exact List.append_nil _
  comesBehind := hjournal.comesBehind_concat hevent

theorem total (hjournal : Journal entry logged totals events) (n : Int) :
    Journal entry logged (totals ++ [n]) (events ++ [.totalled n]) where
  lexemes_eq := by
    rw [List.filterMap_append, hjournal.lexemes_eq]
    exact List.append_nil _
  totals_eq := by
    rw [List.filterMap_append, hjournal.totals_eq]
    rfl
  comesBehind := hjournal.comesBehind_concat trivial

end Journal

namespace Evaluation

variable {entry : Nat → Lexeme}

/-- A course goes on with any record that ends with the entry where it starts, and leaves one
that ends with the entry where it stops. -/
def Continues (entry : Nat → Lexeme) (course : Course) : Prop :=
  ∀ ⦃start result events stop⦄, course start result events stop →
    ∀ past, Journal entry (start + 1) [] past → Journal entry (stop + 1) [] (past ++ events)

/-- Where an operand of a level has been read, the entry behind it has just been put on record,
or the operand is one of a sum and its last product has. -/
def EndsOnRecord (entry : Nat → Lexeme) (level : Level) (operand : Course) : Prop :=
  ∀ ⦃start n events stop⦄, operand start (.ok n) events stop →
    ∃ term, IsTerm term ∧ ReadsAs entry term start stop n ∧
      (events.getLast? = some (.scanned (entry stop)) ∨
        level = .sum ∧ ∃ lhs op rhs, op.level = .product ∧
          events.getLast? = some (.combined lhs op rhs n))

theorem continues_factorCourse : Continues entry (FactorCourse entry) := by
  intro start result events stop hcourse past hpast
  cases hcourse with
  | number _ => exact hpast.scan
  | oversized _ => exact hpast.scan
  | unexpected _ =>
      rw [List.append_nil]
      exact hpast

/-- A combination comes where it has to: the operand that has just been read is its right one. -/
theorem EndsOnRecord.comesBehind {operand : Course} {level : Level}
    (hends : EndsOnRecord entry level operand) {start stop : Nat} {op : Operator} {column : Column}
    {rhs : Int} {past events : List Event} (hentry : entry start = ⟨.operator op, column⟩)
    (hlevel : op.level = level) (hoperand : operand (start + 1) (.ok rhs) events stop)
    (hjournal : Journal entry (stop + 1) [] (past ++ events)) (lhs result : Int) :
    (Event.combined lhs op rhs result).ComesBehind entry (past ++ events) := by
  obtain ⟨term, hterm, hreads, hlast⟩ := hends hoperand
  refine ⟨start, stop, column, term, hentry, hterm, hreads, hjournal.lexemes_eq, ?_⟩
  rw [List.getLast?_append, hlevel]
  rcases hlast with hlast | ⟨hsum, lhs', op', rhs', hproduct, hlast⟩
  · left
    rw [hlast]
    rfl
  · right
    refine ⟨hsum, lhs', op', rhs', hproduct, ?_⟩
    rw [hlast]
    rfl

/-- The induction is on the course: each operator is put on record, then its operand, then
their combination. -/
theorem Continues.chain {operand : Course} {level : Level} (hoperand : Continues entry operand)
    (hends : EndsOnRecord entry level operand) (lhs : Int) :
    Continues entry (ChainCourse entry operand level lhs) := by
  intro start result events stop hcourse
  induction hcourse with
  | done _ =>
      intro past hpast
      rw [List.append_nil]
      exact hpast
  | operandFault _ _ hfault =>
      intro past hpast
      simpa only [List.append_assoc, List.singleton_append] using hoperand hfault _ hpast.scan
  | combineFault _ _ hvalue _ =>
      intro past hpast
      simpa only [List.append_assoc, List.singleton_append] using hoperand hvalue _ hpast.scan
  | @step _ _ _ lhs rhs result _ _ _ _ _ hentry hlevel hvalue _ _ ih =>
      intro past hpast
      have hread := hoperand hvalue _ hpast.scan
      have hcombined := hread.combine (hends.comesBehind hentry hlevel hvalue hread lhs result)
      simpa only [List.append_assoc, List.cons_append, List.nil_append] using ih _ hcombined

theorem Continues.joined {operand : Course} {level : Level} (hoperand : Continues entry operand)
    (hends : EndsOnRecord entry level operand) :
    Continues entry (JoinedCourse entry operand level) := by
  intro start result events stop hcourse past hpast
  cases hcourse with
  | fault hfault => exact hoperand hfault past hpast
  | chain hvalue hchain =>
      have hread := hoperand hvalue past hpast
      rw [← List.append_assoc]
      exact hoperand.chain hends _ hchain _ hread

theorem endsOnRecord_factorCourse (hliterals : Literals entry) :
    EndsOnRecord entry .product (FactorCourse entry) := by
  intro start n events stop hcourse
  have hreads := hcourse.readsAs hliterals
  cases hcourse with
  | number _ => exact ⟨_, .number n, hreads, .inl rfl⟩

/-- A chain that has combined something ends with a combination that gives its value. -/
theorem ChainCourse.getLast?_cases {operand : Course} {level : Level} {start stop : Nat}
    {lhs n : Int} {events : List Event}
    (hcourse : ChainCourse entry operand level lhs start (.ok n) events stop) :
    (events = [] ∧ stop = start ∧ n = lhs) ∨
      ∃ lhs' op rhs, op.level = level ∧ events.getLast? = some (.combined lhs' op rhs n) := by
  generalize houtcome : Except.ok n = outcome at hcourse
  induction hcourse with
  | done _ =>
      cases houtcome
      exact .inl ⟨rfl, rfl, rfl⟩
  | operandFault => cases houtcome
  | combineFault => cases houtcome
  | @step _ _ _ lhs rhs _ op _ _ _ _ _ hlevel _ _ _ ih =>
      right
      rcases ih houtcome with ⟨rfl, -, rfl⟩ | ⟨lhs', op', rhs', hlevel', hlast⟩
      · exact ⟨lhs, op, rhs, hlevel, List.getLast?_concat⟩
      · refine ⟨lhs', op', rhs', hlevel', ?_⟩
        rw [List.getLast?_append, List.getLast?_cons, hlast]
        rfl

theorem endsOnRecord_termCourse (hliterals : Literals entry) :
    EndsOnRecord entry .sum (TermCourse entry) := by
  intro start n events stop hcourse
  obtain ⟨term, hterm, hreads⟩ := hcourse.readsAs hliterals
  refine ⟨term, hterm, hreads, ?_⟩
  cases hcourse with
  | chain hvalue hchain =>
      rcases hchain.getLast?_cases with ⟨rfl, rfl, rfl⟩ | ⟨lhs, op, rhs, hlevel, hlast⟩
      · -- The term is a single number.
        obtain ⟨-, -, -, hlast⟩ := endsOnRecord_factorCourse hliterals hvalue
        left
        rw [List.append_nil]
        rcases hlast with hlast | ⟨hsum, -⟩
        · exact hlast
        · cases hsum
      · right
        refine ⟨rfl, lhs, op, rhs, hlevel, ?_⟩
        rw [List.getLast?_append, hlast]
        rfl

theorem continues_expressionCourse (hliterals : Literals entry) :
    Continues entry (ExpressionCourse entry) := by
  have hterm : Continues entry (TermCourse entry) :=
    continues_factorCourse.joined (endsOnRecord_factorCourse hliterals)
  exact hterm.joined (endsOnRecord_termCourse hliterals)

end Evaluation

namespace Segmentation

/-- The ways in which the evaluation of a line ends, with the combinations that are done and the
number of lexemes that have been read until then.  One of them is always only read ahead. -/
inductive Ended (line : List Char) : Mode → Except Fault Int → List Event → Nat → Prop
  /-- The empty line is refused before anything is read. -/
  | empty {mode : Mode} (hline : line = []) : Ended line mode (.error .emptyLine) [] 0
  /-- The expression has a fault. -/
  | fault {mode : Mode} {fault : Fault} {done : List Event} {stop : Nat} (hline : line ≠ [])
      (haccount : Account (stream line) Grammatical 0 (.error fault) done stop) :
      Ended line mode (.error fault) done (stop + 1)
  /-- The expression has a value, and behind it comes the lexeme that is read ahead. -/
  | lenient {n : Int} {done : List Event} {stop : Nat}
      (haccount : Account (stream line) Grammatical 0 (.ok n) done stop)
      (hends : ∀ op, (stream line stop).token ≠ .operator op) :
      Ended line .lenient (.ok n) done (stop + 1)
  /-- The expression takes up the whole line, of which the end has been read twice. -/
  | strict {n : Int} {done : List Event}
      (haccount : Account (stream line) Grammatical 0 (.ok n) done (lexemes line).length) :
      Ended line .strict (.ok n) done ((lexemes line).length + 2)
  /-- The expression has a value, but the lexeme behind it is refused. -/
  | leftOver {n : Int} {done : List Event} {stop : Nat}
      (haccount : Account (stream line) Grammatical 0 (.ok n) done stop)
      (hends : ∀ op, (stream line stop).token ≠ .operator op)
      (hmore : (stream line stop).token ≠ .endOfLine) :
      Ended line .strict
        (.error (.unexpected .endOfLine (stream line stop).token (stream line stop).column))
        done (stop + 1)

/-- A faithful record of a run over a line: of its first lexemes, of the combinations of the
tree that accounts for it, and of its value. -/
structure Recorded (line : List Char) (mode : Mode) (result : Except Fault Int)
    (events : List Event) (logged : Nat) : Prop where
  journal : Journal (stream line) logged result.toOption.toList events
  ended : Ended line mode result (events.filter Event.isCombined) logged
  getLast?_eq : ∀ n, result = .ok n → events.getLast? = some (.totalled n)

/-- A tree that reaches up to the end of a line takes up all its lexemes. -/
theorem stop_eq_of_writtenBy {line : List Char} {formula : Formula} {stop : Nat}
    (hwritten : formula.WrittenBy (stream line) 0 stop)
    (hend : (stream line stop).token = .endOfLine) : stop = (lexemes line).length := by
  have htokens := tokensFrom_of_writtenBy hwritten
  rw [tokensFrom, tokensFrom, following_eq_nil_iff.2 hend, List.map_nil, List.append_nil,
    following_zero] at htokens
  rw [hwritten.stop_eq, ← htokens, List.length_map, Nat.zero_add]

/-- Before anything is evaluated, the first lexeme is on record. -/
theorem journal_ofScanner (line : String) :
    Journal (stream line.toList) 1 []
      (Lookahead.ofScanner (.ofString line)).log.toList := by
  have hlog : (Lookahead.ofScanner (.ofString line)).log.toList =
      [.scanned (stream line.toList 0)] := by
    rw [← Scanner.scan_after_ofString]
    rfl
  rw [hlog]
  exact (Journal.nil _).scan

/-- The total that is put on record for a value completes the record. -/
theorem recorded_total {line : List Char} {mode : Mode} {n : Int} {s : Lookahead} {logged : Nat}
    (hjournal : Journal (stream line) logged [] s.log.toList)
    (hended : Ended line mode (.ok n) (s.log.toList.filter Event.isCombined) logged) :
    Recorded line mode (.ok n) (s.record (.totalled n)).log.toList logged where
  journal := by
    rw [Lookahead.log_record]
    exact hjournal.total n
  ended := by
    rw [Lookahead.log_record, Event.filter_isCombined_concat _ rfl]
    exact hended
  getLast?_eq m hm := by
    cases hm
    rw [Lookahead.log_record]
    exact List.getLast?_concat

/-- The log of a line that is read is a faithful record, up to the lexeme that is current at
the end. -/
theorem exists_recorded (mode : Mode) {line : String} (hline : line ≠ "") :
    ∃ consumed, (finalState mode line).At (stream line.toList) consumed ∧
      Recorded line.toList mode (evaluate mode line) (finalState mode line).log.toList
        (consumed + 1) := by
  have hliterals := literals_stream line.toList
  obtain ⟨events, stop, hcourse, hstop, hlog⟩ :=
    takes_expression _ 0 (Lookahead.at_ofScanner line 0)
  have hjournal := continues_expressionCourse hliterals hcourse _ (journal_ofScanner line)
  have haccount := accounted_expressionCourse hliterals hcourse
  -- Before the expression only a lexeme is on record, so all combinations are its own.
  have hdone : events.filter Event.isCombined =
      ((Lookahead.ofScanner (.ofString line)).log.toList ++ events).filter Event.isCombined := rfl
  rw [hdone] at haccount
  rw [Scanner.after_zero] at hcourse hstop hlog haccount
  rw [← hlog] at hjournal haccount
  have htotalled := totalled mode (.ofScanner (.ofString line))
  rw [evaluate_of_ne mode hline, finalState]
  generalize (total mode).run (.ofScanner (.ofString line)) = final at htotalled
  cases htotalled with
  | fault hrun =>
      rw [hrun] at hstop hjournal haccount
      have htext : line.toList ≠ [] := mt String.toList_eq_nil_iff.1 hline
      exact ⟨stop, hstop, hjournal, .fault htext haccount, fun n hn => nomatch hn⟩
  | lenient hrun =>
      rw [hrun] at hcourse hstop hjournal haccount
      have hends := hcourse.not_operator
      exact ⟨stop, hstop.record _, recorded_total hjournal (.lenient haccount hends)⟩
  | @strict n s' hrun hend =>
      rw [hrun] at hstop hjournal haccount
      have hat : s'.At (stream line.toList) stop := hstop
      rw [hat.token_eq] at hend
      obtain ⟨formula, -, hreads, -⟩ := haccount.exists_formula
      obtain rfl := stop_eq_of_writtenBy hreads.written hend
      have hagain : Journal (stream line.toList) ((lexemes line.toList).length + 2) []
          s'.advance.log.toList := by
        rw [hat.log_advance]
        exact hjournal.scan
      refine ⟨_, hat.advance.record _, recorded_total hagain ?_⟩
      rw [hat.log_advance, Event.filter_isCombined_concat _ rfl]
      exact .strict haccount
  | @leftOver n s' hrun hmore =>
      rw [hrun] at hcourse hstop hjournal haccount
      have hends := hcourse.not_operator
      have hat : s'.At (stream line.toList) stop := hstop
      rw [hat.current_eq] at hmore ⊢
      exact ⟨stop, hat, hjournal, .leftOver haccount hends hmore, fun m hm => nomatch hm⟩

end Segmentation

open Segmentation

/-- The events of a line are a faithful record of its evaluation, in both modes and for every
line.

* The lexemes on record are the first ones of the stream of the line, once each and in order:
  those that have been consumed and the one that is read ahead.  So where the line has a
  value, the lexeme behind the expression is the last one in lenient mode, and in strict mode
  the end of the line comes twice.
* The combinations on record are those of the tree that accounts for the result.  For a value
  they are all combinations of the tree of the expression, operands before what they are
  operands of; for a fault they are those in front of the combination that fails or of the
  number that is missing.
* Each combination directly follows the lexeme behind its right operand, or the product that
  completes its right operand.
* The total is on record if and only if there is a value, once and at the end. -/
theorem evaluateWithEvents_recorded (mode : Mode) (line : String) :
    ∃ logged,
      Recorded line.toList mode (evaluate mode line) (evaluateWithEvents mode line).2 logged ∧
        (line = "" ∨ ∃ consumed, logged = consumed + 1 ∧
          (finalState mode line).At (stream line.toList) consumed) := by
  by_cases hline : line = ""
  · subst hline
    have hjournal : Journal (stream []) 0 [] [] := .nil _
    exact ⟨0, ⟨hjournal, .empty rfl, fun n hn => nomatch hn⟩, .inl rfl⟩
  · obtain ⟨consumed, hat, hrecorded⟩ := exists_recorded mode hline
    rw [evaluateWithEvents_of_ne mode hline]
    exact ⟨consumed + 1, hrecorded, .inr ⟨consumed, rfl, hat⟩⟩

end LineCalculator
