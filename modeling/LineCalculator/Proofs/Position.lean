import LineCalculator.Evaluation.Conversation
import LineCalculator.Proofs.WholeLine
import Mathlib.Order.Monotone.Basic

/-!
# Positions in the stream

A conversation may ask for any rule at any time, also after a fault and in the middle of
an expression.  Whatever has been asked before, its state stands at one entry of the
stream of the line, and no request goes back to an earlier entry.

Where a request stops because of a fault, the fault can be read off the entries around
that place, without knowing which request it was: the entry that was refused is current,
an oversized literal is one entry back, a product that fails is two entries back, and a
sum that fails stands in front of the term that ends there.

Where a request is met, its reply can be read off the entries in between in the same way.

Main statement: the states of a conversation can be numbered by entries of the stream, in
this sense and without ever going back.  The step of a conversation is proved for every
request, from the courses of factors, terms and expressions; a whole conversation follows
by induction on its requests.
-/

namespace LineCalculator

namespace Fault

open Evaluation Formula

/-- The entries around an index bear a fault out.  Only products and sums overflow: the
quotient of a value that fits and a literal fits as well. -/
def EvidentAt (entry : Nat → Lexeme) (index : Nat) : Fault → Prop
  | emptyLine => False
  | unexpected expected found column =>
      entry index = ⟨found, column⟩ ∧ found.category ≠ expected
  | literalTooLarge column =>
      ∃ literal, index = literal + 1 ∧ entry literal = ⟨.oversized, column⟩
  | divisionByZero column =>
      ∃ sign, index = sign + 2 ∧ entry sign = ⟨.operator .divide, column⟩ ∧
        (entry (sign + 1)).token = .number 0
  | overflow column =>
      (∃ sign n, index = sign + 2 ∧ entry sign = ⟨.operator .multiply, column⟩ ∧
        (entry (sign + 1)).token = .number n) ∨
      ∃ sign op term, entry sign = ⟨.operator op, column⟩ ∧ op.level = .sum ∧
        IsTerm term ∧ term.WrittenBy entry (sign + 1) index ∧ Ends entry .product index

end Fault

namespace Evaluation

open Formula

variable {entry : Nat → Lexeme}

/-! Courses go forward. -/

/-- A course never ends before it starts. -/
def Forward (course : Course) : Prop :=
  ∀ ⦃start outcome events stop⦄, course start outcome events stop → start ≤ stop

theorem forward_factorCourse : Forward (FactorCourse entry) := by
  intro start outcome events stop hcourse
  cases hcourse with
  | number _ => exact Nat.le_succ start
  | oversized _ => exact Nat.le_succ start
  | unexpected _ => exact Nat.le_refl start

theorem forward_chainCourse {operand : Course} (hoperand : Forward operand) (level : Level)
    (lhs : Int) : Forward (ChainCourse entry operand level lhs) := by
  intro start outcome events stop hcourse
  induction hcourse with
  | done _ => exact Nat.le_refl _
  | operandFault _ _ hfault =>
      have hle := hoperand hfault
      omega
  | combineFault _ _ hvalue _ =>
      have hle := hoperand hvalue
      omega
  | step _ _ hvalue _ _ ih =>
      have hle := hoperand hvalue
      omega

theorem forward_joinedCourse {operand : Course} (hoperand : Forward operand) (level : Level) :
    Forward (JoinedCourse entry operand level) := by
  intro start outcome events stop hcourse
  cases hcourse with
  | fault hfault => exact hoperand hfault
  | chain hvalue hchain =>
      have hle := hoperand hvalue
      have hle' := forward_chainCourse hoperand level _ hchain
      omega

theorem forward_termCourse : Forward (TermCourse entry) :=
  forward_joinedCourse forward_factorCourse .product

theorem forward_expressionCourse : Forward (ExpressionCourse entry) :=
  forward_joinedCourse forward_termCourse .sum

/-! Faults are evident where courses stop. -/

/-- A course that meets a fault stops where the fault is evident. -/
def Evident (entry : Nat → Lexeme) (course : Course) : Prop :=
  ∀ ⦃start fault events stop⦄, course start (.error fault) events stop →
    fault.EvidentAt entry stop

/-- Where an operator of a level cannot be given its right operand, the fault is evident
behind that operand. -/
def EvidentCombination (entry : Nat → Lexeme) (operand : Course) (level : Level) : Prop :=
  ∀ ⦃start stop lhs rhs op column events fault⦄, Representable lhs →
    entry start = ⟨.operator op, column⟩ → op.level = level →
    operand (start + 1) (.ok rhs) events stop → op.combine lhs rhs column = .error fault →
    fault.EvidentAt entry stop

theorem evident_factorCourse : Evident entry (FactorCourse entry) := by
  intro start fault events stop hcourse
  cases hcourse with
  | oversized hentry => exact ⟨start, rfl, hentry⟩
  | unexpected hcategory => exact ⟨rfl, hcategory⟩

/-- In a chain the fault is one of an operand or of a combination.  Every value so far is
the result of a combination, so it fits. -/
theorem evident_chainCourse {operand : Course} {level : Level}
    (hoperand : Evident entry operand) (hcombination : EvidentCombination entry operand level)
    {lhs : Int} (hlhs : Representable lhs) :
    Evident entry (ChainCourse entry operand level lhs) := by
  intro start fault events stop hcourse
  generalize houtcome : Except.error fault = outcome at hcourse
  induction hcourse with
  | done _ => cases houtcome
  | operandFault _ _ hfault =>
      cases houtcome
      exact hoperand hfault
  | combineFault hentry hlevel hvalue hcombine =>
      cases houtcome
      exact hcombination hlhs hentry hlevel hvalue hcombine
  | step _ _ _ hcombine _ ih =>
      obtain ⟨-, hfits, rfl⟩ := Operator.combine_eq_ok_iff.1 hcombine
      exact ih hfits houtcome

theorem evident_joinedCourse {operand : Course} {level : Level}
    (hoperand : Evident entry operand) (hcombination : EvidentCombination entry operand level)
    (hvalues : ∀ ⦃start n events stop⦄, operand start (.ok n) events stop → Representable n) :
    Evident entry (JoinedCourse entry operand level) := by
  intro start fault events stop hcourse
  cases hcourse with
  | fault hfault => exact hoperand hfault
  | chain hvalue hchain =>
      exact evident_chainCourse hoperand hcombination (hvalues hvalue) hchain

/-- A product fails right behind its operator and one literal.  A quotient only fails for
a zero divisor, since no literal is negative. -/
theorem evidentCombination_factor (hliterals : Literals entry) :
    EvidentCombination entry (FactorCourse entry) .product := by
  intro start stop lhs rhs op column events fault hlhs hentry hlevel hoperand hcombine
  obtain ⟨⟨htoken, rfl⟩, -, -⟩ := hoperand.readsAs hliterals
  obtain ⟨hnonneg, -⟩ := hliterals _ _ htoken
  rcases Operator.combine_eq_error_iff.1 hcombine with
    ⟨rfl, rfl, rfl⟩ | ⟨hdivisor, hfits, rfl⟩
  · exact ⟨start, rfl, hentry, htoken⟩
  · cases op with
    | add => cases hlevel
    | subtract => cases hlevel
    | multiply => exact .inl ⟨start, rhs, rfl, hentry, htoken⟩
    | divide =>
        have hnonzero : rhs ≠ 0 := by
          intro hzero
          exact hdivisor ⟨rfl, hzero⟩
        have hpositive : 0 < rhs := by omega
        have hquotient : Representable (lhs.tdiv rhs) := hlhs.tdiv hpositive
        exact absurd hquotient hfits

/-- A sum fails behind its operator and a whole term. -/
theorem evidentCombination_term (hliterals : Literals entry) :
    EvidentCombination entry (TermCourse entry) .sum := by
  intro start stop lhs rhs op column events fault _ hentry hlevel hoperand hcombine
  obtain ⟨term, hterm, hreads⟩ := hoperand.readsAs hliterals
  rcases Operator.combine_eq_error_iff.1 hcombine with ⟨rfl, -, -⟩ | ⟨-, -, rfl⟩
  · -- Division is no operator of the sum level.
    cases hlevel
  · exact .inr ⟨start, op, term, hentry, hlevel, hterm, hreads.written, hoperand.ends⟩

theorem evident_termCourse (hliterals : Literals entry) : Evident entry (TermCourse entry) := by
  refine evident_joinedCourse evident_factorCourse (evidentCombination_factor hliterals) ?_
  intro start n events stop hcourse
  obtain ⟨-, hsound, -⟩ := hcourse.readsAs hliterals
  exact hsound

theorem evident_expressionCourse (hliterals : Literals entry) :
    Evident entry (ExpressionCourse entry) := by
  refine evident_joinedCourse (evident_termCourse hliterals) (evidentCombination_term hliterals) ?_
  intro start n events stop hcourse
  obtain ⟨term, -, hreads⟩ := hcourse.readsAs hliterals
  rw [← hreads.value_eq]
  exact hreads.sound.representable_value

/-! Computations keep to the stream. -/

/-- The entries from `start` up to `stop` are a term of a value, and no product goes on
behind it. -/
def ReadsTerm (entry : Nat → Lexeme) (n : Int) (start stop : Nat) : Prop :=
  ∃ formula, IsTerm formula ∧ ReadsAs entry formula start stop n ∧ Ends entry .product stop

/-- The entries from `start` up to `stop` are an expression of a value, and no operator
goes on behind it. -/
def ReadsExpression (entry : Nat → Lexeme) (n : Int) (start stop : Nat) : Prop :=
  ∃ formula : Formula, formula.Grammatical ∧ ReadsAs entry formula start stop n ∧
    ∀ op, (entry stop).token ≠ .operator op

/-- What has been read where a request is met. -/
def Request.MetBy (entry : Nat → Lexeme) : Request → Reply → Nat → Nat → Prop
  | .factor, .value n, start, stop => ReadsAs entry (.number n) start stop n
  | .term, .value n, start, stop => ReadsTerm entry n start stop
  | .expression, .value n, start, stop => ReadsExpression entry n start stop
  | .total .lenient, .value n, start, stop => ReadsExpression entry n start stop
  | .total .strict, .value n, start, stop =>
      ∃ last, ReadsExpression entry n start last ∧ (entry last).token = .endOfLine ∧
        stop = last + 1
  | .expect category, .token token, start, stop =>
      (entry start).token = token ∧ token.category = category ∧ stop = start + 1
  | _, _, _, _ => False

/-- A computation that starts at an entry stops at one that is not before it.  What it gives
has been read in between, and a fault is evident where it stops. -/
def Follows (entry : Nat → Lexeme) {α : Type} (x : Evaluation α) (read : α → Nat → Nat → Prop) :
    Prop :=
  ∀ ⦃s start⦄, s.At entry start →
    ∃ stop, start ≤ stop ∧ (stateAfter (x.run s)).At entry stop ∧
      (∀ a, outcome (x.run s) = .ok a → read a start stop) ∧
      ∀ fault, outcome (x.run s) = .error fault → fault.EvidentAt entry stop

theorem Follows.map {α β : Type} (f : α → β) {x : Evaluation α} {read : β → Nat → Nat → Prop}
    (hx : Follows entry x fun a => read (f a)) : Follows entry (f <$> x) read := by
  intro s start hat
  obtain ⟨stop, hle, hstop, hread, hevident⟩ := hx hat
  rw [run_map]
  cases hrun : x.run s with
  | ok a s' =>
      rw [hrun] at hstop hread
      refine ⟨stop, hle, hstop, ?_, ?_⟩
      · intro b hb
        cases hb
        exact hread a rfl
      · intro fault hfault
        cases hfault
  | error fault s' =>
      rw [hrun] at hstop hevident
      refine ⟨stop, hle, hstop, ?_, ?_⟩
      · intro b hb
        cases hb
      · intro fault' hfault
        cases hfault
        exact hevident fault rfl

theorem follows_expect (category : Category) :
    Follows entry (expect category) fun token start stop =>
      (entry start).token = token ∧ token.category = category ∧ stop = start + 1 := by
  intro s start hat
  rw [run_expect]
  by_cases hcategory : s.current.token.category = category
  · rw [if_pos hcategory]
    refine ⟨start + 1, Nat.le_succ start, hat.advance, ?_, ?_⟩
    · intro token htoken
      cases htoken
      exact ⟨hat.token_eq.symm, hcategory, rfl⟩
    · intro fault hfault
      cases hfault
  · rw [if_neg hcategory]
    refine ⟨start, Nat.le_refl start, hat, ?_, ?_⟩
    · intro token htoken
      cases htoken
    · intro fault hfault
      cases hfault
      exact ⟨hat.current_eq.symm, hcategory⟩

/-- A rule follows the stream if its courses go forward, to a reading or to an evident
fault. -/
theorem Takes.follows {x : Evaluation Int} {course : Course} {read : Int → Nat → Nat → Prop}
    (hx : Takes entry x course) (hforward : Forward course) (hevident : Evident entry course)
    (hread : ∀ ⦃start n events stop⦄, course start (.ok n) events stop → read n start stop) :
    Follows entry x read := by
  intro s start hat
  obtain ⟨events, stop, hcourse, hstop, -⟩ := hx s start hat
  refine ⟨stop, hforward hcourse, hstop, ?_, ?_⟩
  · intro n hn
    rw [hn] at hcourse
    exact hread hcourse
  · intro fault hfault
    rw [hfault] at hcourse
    exact hevident hcourse

theorem follows_factor (hliterals : Literals entry) :
    Follows entry factor fun n start stop => ReadsAs entry (.number n) start stop n := by
  apply takes_factor.follows forward_factorCourse evident_factorCourse
  intro start n events stop hcourse
  exact hcourse.readsAs hliterals

theorem follows_term (hliterals : Literals entry) : Follows entry term (ReadsTerm entry) := by
  apply takes_term.follows forward_termCourse (evident_termCourse hliterals)
  intro start n events stop hcourse
  obtain ⟨formula, hterm, hreads⟩ := hcourse.readsAs hliterals
  exact ⟨formula, hterm, hreads, hcourse.ends⟩

theorem follows_expression (hliterals : Literals entry) :
    Follows entry expression (ReadsExpression entry) := by
  apply takes_expression.follows forward_expressionCourse (evident_expressionCourse hliterals)
  intro start n events stop hcourse
  obtain ⟨formula, hgrammatical, hreads⟩ := hcourse.readsAs hliterals
  exact ⟨formula, hgrammatical, hreads, hcourse.not_operator⟩

theorem follows_total_lenient (hliterals : Literals entry) :
    Follows entry (total .lenient) (ReadsExpression entry) := by
  intro s start hat
  obtain ⟨stop, hle, hstop, hread, hevident⟩ := follows_expression hliterals hat
  rw [run_total_lenient]
  cases hrun : expression.run s with
  | error fault s' =>
      rw [hrun] at hstop hread hevident
      exact ⟨stop, hle, hstop, hread, hevident⟩
  | ok n s' =>
      rw [hrun] at hstop hread hevident
      exact ⟨stop, hle, hstop.record _, hread, hevident⟩

/-- In strict mode the end of the line is read as well, and it may be the fault. -/
theorem follows_total_strict (hliterals : Literals entry) :
    Follows entry (total .strict) fun n start stop =>
      ∃ last, ReadsExpression entry n start last ∧ (entry last).token = .endOfLine ∧
        stop = last + 1 := by
  intro s start hat
  obtain ⟨last, hle, hlast, hread, hevident⟩ := follows_expression hliterals hat
  rw [run_total_strict]
  cases hrun : expression.run s with
  | error fault s' =>
      rw [hrun] at hlast hevident
      refine ⟨last, hle, hlast, ?_, hevident⟩
      intro n hn
      cases hn
  | ok n s' =>
      rw [hrun] at hlast hread
      dsimp only
      have hat' : s'.At entry last := hlast
      by_cases hend : s'.current.token = .endOfLine
      · rw [if_pos hend]
        refine ⟨last + 1, Nat.le_succ_of_le hle, hat'.advance.record _, ?_, ?_⟩
        · intro m hm
          cases hm
          rw [hat'.token_eq] at hend
          exact ⟨last, hread n rfl, hend, rfl⟩
        · intro fault hfault
          cases hfault
      · rw [if_neg hend]
        refine ⟨last, hle, hat', ?_, ?_⟩
        · intro m hm
          cases hm
        · intro fault hfault
          cases hfault
          exact ⟨hat'.current_eq.symm, mt category_eq_endOfLine_iff.1 hend⟩

/-- Every request follows the stream. -/
theorem follows_serve (hliterals : Literals entry) (request : Request) :
    Follows entry request.serve (request.MetBy entry) := by
  cases request with
  | factor =>
      apply Follows.map Reply.value
      exact follows_factor hliterals
  | term =>
      apply Follows.map Reply.value
      exact follows_term hliterals
  | expression =>
      apply Follows.map Reply.value
      exact follows_expression hliterals
  | expect category =>
      apply Follows.map Reply.token
      exact follows_expect category
  | total mode =>
      apply Follows.map Reply.value
      cases mode with
      | lenient => exact follows_total_lenient hliterals
      | strict => exact follows_total_strict hliterals

/-- An expectation that fails leaves everything as it was. -/
theorem stateAfter_expect_of_fault {category : Category} {s : Lookahead} {fault : Fault}
    (hfault : outcome ((Request.expect category).serve.run s) = .error fault) :
    stateAfter ((Request.expect category).serve.run s) = s := by
  unfold Request.serve at hfault ⊢
  rw [run_map, run_expect] at hfault ⊢
  by_cases hcategory : s.current.token.category = category
  · rw [if_pos hcategory] at hfault
    cases hfault
  · rw [if_neg hcategory]
    rfl

/-! Whole conversations. -/

/-- What a request does to a state, from the entry `start` to the entry `stop`. -/
structure Served (entry : Nat → Lexeme) (request : Request) (before : Lookahead) (start : Nat)
    (result : Except Fault Reply) (after : Lookahead) (stop : Nat) : Prop where
  at_stop : after.At entry stop
  met : ∀ reply, result = .ok reply → request.MetBy entry reply start stop
  evident : ∀ fault, result = .error fault → fault.EvidentAt entry stop
  unmoved : ∀ category fault, request = .expect category → result = .error fault → after = before

/-- One step of a conversation. -/
theorem exists_served (hliterals : Literals entry) {s : Lookahead} {start : Nat}
    (hat : s.At entry start) (request : Request) :
    ∃ stop, start ≤ stop ∧
      Served entry request s start (outcome (request.serve.run s))
        (stateAfter (request.serve.run s)) stop := by
  obtain ⟨stop, hle, hstop, hmet, hevident⟩ := follows_serve hliterals request hat
  refine ⟨stop, hle, hstop, hmet, hevident, ?_⟩
  rintro category fault rfl hfault
  exact stateAfter_expect_of_fault hfault

/-- The states of a conversation: the first one and the one behind each request. -/
def visited (requests : List Request) (s : Lookahead) : List Lookahead :=
  s :: (converse requests s).map Prod.snd

/-- The states and the results of a conversation belong to entries of the stream, numbered
by `index`. -/
structure Numbered (entry : Nat → Lexeme) (requests : List Request) (s : Lookahead)
    (index : Nat → Nat) : Prop where
  monotone : Monotone index
  at_index : ∀ (i : Nat) (s' : Lookahead), (visited requests s)[i]? = some s' →
    s'.At entry (index i)
  served : ∀ (i : Nat) (request : Request), requests[i]? = some request →
    ∃ before result after, (visited requests s)[i]? = some before ∧
      (converse requests s)[i]? = some (result, after) ∧
      Served entry request before (index i) result after (index (i + 1))

/-- The entries of a longer conversation: the one at which it starts, then the others. -/
def startingAt (start : Nat) (index : Nat → Nat) : Nat → Nat
  | 0 => start
  | i + 1 => index i

/-- A whole conversation is numbered, by induction on its requests. -/
theorem exists_numbered (hliterals : Literals entry) (requests : List Request) {s : Lookahead}
    {start : Nat} (hat : s.At entry start) :
    ∃ index, index 0 = start ∧ Numbered entry requests s index := by
  induction requests generalizing s start with
  | nil =>
      refine ⟨fun _ => start, rfl, fun i j _ => Nat.le_refl start, ?_, ?_⟩
      · intro i s' hs'
        cases i with
        | zero =>
            cases hs'
            exact hat
        | succ i => cases hs'
      · intro i request hrequest
        cases hrequest
  | cons request requests ih =>
      -- The first request leads to an entry `middle`, and the rest is numbered from there.
      obtain ⟨middle, hle, hserved⟩ := exists_served hliterals hat request
      obtain ⟨index, hzero, hnumbered⟩ := ih hserved.at_stop
      refine ⟨startingAt start index, rfl, monotone_nat_of_le_succ ?_, ?_, ?_⟩
      · intro i
        cases i with
        | zero =>
            show start ≤ index 0
            omega
        | succ i => exact hnumbered.monotone (Nat.le_succ i)
      · intro i s' hs'
        cases i with
        | zero =>
            cases hs'
            exact hat
        | succ i => exact hnumbered.at_index i s' hs'
      · intro i other hother
        cases i with
        | zero =>
            cases hother
            refine ⟨s, _, _, rfl, rfl, ?_⟩
            show Served entry request s start _ _ (index 0)
            rw [hzero]
            exact hserved
        | succ i => exact hnumbered.served i other hother

end Evaluation

open Evaluation Segmentation

/-- A conversation over the rest of a line, behind any number of lexemes that have been
skipped, stays in the stream of that line.  There are entries of the stream, one for each
state, that never decrease and of which the first is the number of skipped lexemes:

* each state has its entry as the current lexeme and goes on scanning behind it,
* each request is served, also behind requests that failed; what it gives has been read
  between its two entries (`Request.MetBy`), and where it meets a fault, the entry of the
  state that it leaves bears the fault out (`Fault.EvidentAt`),
* an expectation that fails leaves its state unchanged. -/
theorem converse_numbered (line : String) (skipped : Nat) (requests : List Request) :
    ∃ index : Nat → Nat, index 0 = skipped ∧
      Numbered (stream line.toList) requests
        (.ofScanner ((Scanner.ofString line).after skipped)) index :=
  exists_numbered (literals_stream _) requests (Lookahead.at_ofScanner line skipped)

end LineCalculator
