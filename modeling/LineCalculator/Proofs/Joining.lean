import LineCalculator.Proofs.Location
import LineCalculator.Proofs.Strictness

/-!
# Joining lines

Two lines that strict mode accepts can be joined with a plus sign.  The value of the second line
is not added as a whole: its terms are added or subtracted one by one, from the left, beginning
with the value of the first line.  So the joined line has the sum of both values, unless one of
the sums on the way leaves the range.  Then it overflows at the operator of the first such sum.

The second line is read behind the plus sign as it is read by itself, only further on.  So its
terms keep their values, and the induction is on its chain of sums, with the value of the first
line added to all sums so far.

Main statement: `evaluate_join`.
-/

namespace LineCalculator

open Evaluation Formula Segmentation

/-- A term with the operator in front of it. -/
structure Summand where
  op : Operator
  column : Column
  value : Int
  deriving DecidableEq

namespace Summand

/-- A summand of which the value so far has been read, and the summands behind it.  Products go on
with its value, and any other operator begins the next summand. -/
def readBehind (op : Operator) (column : Column) (value : Int) : List Lexeme → List Summand
  | ⟨.operator next, sign⟩ :: ⟨.number n, _⟩ :: more =>
      match next.level with
      | .product => readBehind op column (next.exact value n) more
      | .sum => ⟨op, column, value⟩ :: readBehind next sign n more
  | _ => [⟨op, column, value⟩]

/-- The summands of some lexemes that begin with an operator. -/
def read : List Lexeme → List Summand
  | ⟨.operator op, column⟩ :: ⟨.number n, _⟩ :: more => readBehind op column n more
  | _ => []

/-- The exact sums of a number and some summands, one summand more at a time, each with the column
of its operator. -/
def sums (sum : Int) : List Summand → List (Int × Column)
  | [] => []
  | summand :: more =>
      (summand.op.exact sum summand.value, summand.column) ::
        sums (summand.op.exact sum summand.value) more

end Summand

/-- A lexeme that is further on by a distance. -/
def Lexeme.shift (distance : Nat) (lexeme : Lexeme) : Lexeme :=
  ⟨lexeme.token, lexeme.column + distance⟩

/-- The sums of a joined line: the value of the first line with the terms of the second one, of
which the first follows the plus sign. -/
def joinedSums (x : Int) (a b : String) : List (Int × Column) :=
  Summand.sums x (Summand.read (⟨.operator .add, a.length⟩ ::
    (lexemes b.toList).map (Lexeme.shift (a.length + 1))))

namespace Summand

variable {line : List Char} {start stop : Nat} {op : Operator} {column : Column}
  {events : List Event}

/-- Products belong to the term that has been read so far. -/
theorem readBehind_of_productChain (op : Operator) (column : Column) {lhs n : Int}
    (hcourse : ChainCourse (stream line) (FactorCourse (stream line)) .product lhs start (.ok n)
      events stop) :
    readBehind op column lhs (following line start) =
      readBehind op column n (following line stop) := by
  generalize houtcome : Except.ok n = outcome at hcourse
  induction hcourse with
  | done _ =>
      cases houtcome
      rfl
  | operandFault => cases houtcome
  | combineFault => cases houtcome
  | step hentry hlevel hoperand hcombine _ ih =>
      obtain ⟨-, -, rfl⟩ := Operator.combine_eq_ok_iff.1 hcombine
      cases hoperand with
      | number hnumber =>
          rw [← ih houtcome, following_of_entry hentry Token.noConfusion,
            following_of_entry hnumber Token.noConfusion, readBehind, hlevel]

/-- Behind a complete term the other summands follow. -/
theorem readBehind_of_ends (op : Operator) (column : Column) (n : Int)
    (hends : Ends (stream line) .product start) :
    readBehind op column n (following line start) =
      ⟨op, column, n⟩ :: read (following line start) := by
  have hlevel : ∀ next sign more, following line start = ⟨.operator next, sign⟩ :: more →
      next.level = .sum := by
    intro next sign more hfollowing
    have hproduct := hends.level_ne (stream_of_following_cons hfollowing).1
    cases hnext : next.level with
    | sum => rfl
    | product => exact absurd hnext hproduct
  generalize following line start = lexemes at hlevel
  unfold read
  split
  · rw [readBehind, hlevel _ _ _ rfl]
  · next hnone =>
      rw [readBehind]
      exact hnone

/-- An operator and the term behind it are the first summand. -/
theorem read_of_termCourse {n : Int} (hentry : stream line start = ⟨.operator op, column⟩)
    (hterm : TermCourse (stream line) (start + 1) (.ok n) events stop) :
    read (following line start) = ⟨op, column, n⟩ :: read (following line stop) := by
  have hends := hterm.ends
  cases hterm with
  | chain hoperand hchain =>
      cases hoperand with
      | number hnumber =>
          rw [following_of_entry hentry Token.noConfusion,
            following_of_entry hnumber Token.noConfusion, read,
            readBehind_of_productChain op column hchain, readBehind_of_ends op column n hends]

theorem read_of_not_operator (htoken : ∀ op, (stream line start).token ≠ .operator op) :
    read (following line start) = [] := by
  unfold read
  split
  · next hfollowing =>
      have hentry := (stream_of_following_cons hfollowing).1
      exact absurd (congrArg Lexeme.token hentry) (htoken _)
  · rfl

end Summand

/-! Sums in the range. -/

/-- A total, unless one of the sums on the way does not fit. -/
def settledTotal (total : Int) (sums : List (Int × Column)) : Except Fault Int :=
  match sums.find? fun sum => ¬ Representable sum.1 with
  | none => .ok total
  | some sum => .error (.overflow sum.2)

section

variable {total sum : Int} {column : Column} {sums : List (Int × Column)}

theorem settledTotal_cons_of_representable (hfits : Representable sum) :
    settledTotal total ((sum, column) :: sums) = settledTotal total sums := by
  rw [settledTotal, List.find?_cons_of_neg (by simpa using hfits), settledTotal]

theorem settledTotal_cons_of_not_representable (hfits : ¬ Representable sum) :
    settledTotal total ((sum, column) :: sums) = .error (.overflow column) := by
  rw [settledTotal, List.find?_cons_of_pos (by simpa using hfits)]

theorem settledTotal_eq_ok_iff :
    settledTotal total sums = .ok total ↔ ∀ sum ∈ sums, Representable sum.1 := by
  have hnone : (sums.find? fun sum => ¬ Representable sum.1) = none ↔
      ∀ sum ∈ sums, Representable sum.1 := by simp
  rw [settledTotal, ← hnone]
  cases sums.find? fun sum => ¬ Representable sum.1 <;> simp

theorem settledTotal_append_cons {before behind : List (Int × Column)}
    (hbefore : ∀ earlier ∈ before, Representable earlier.1) (hfits : ¬ Representable sum) :
    settledTotal total (before ++ (sum, column) :: behind) = .error (.overflow column) := by
  have hfirst : (before ++ (sum, column) :: behind).find? (fun sum => ¬ Representable sum.1) =
      some (sum, column) :=
    List.find?_eq_some_iff_append.2
      ⟨by simpa using hfits, before, behind, rfl, by simpa using hbefore⟩
  rw [settledTotal, hfirst]

end

namespace Evaluation

variable {entry : Nat → Lexeme} {line : List Char}

/-- A chain of sums comes to a settled total.  If that is a value, it stops at a given entry. -/
def SumsUpTo (entry : Nat → Lexeme) (lhs : Int) (start : Nat) (result : Except Fault Int)
    (stop : Nat) : Prop :=
  ∃ events stop', ChainCourse entry (TermCourse entry) .sum lhs start result events stop' ∧
    ∀ n, result = .ok n → stop' = stop

/-- One more summand in front of a chain. -/
theorem SumsUpTo.cons {op : Operator} {column : Column} {start middle stop : Nat}
    {lhs rhs total : Int} {events : List Event} {sums : List (Int × Column)}
    (hentry : entry start = ⟨.operator op, column⟩) (hlevel : op.level = .sum)
    (hterm : TermCourse entry (start + 1) (.ok rhs) events middle)
    (hmore : SumsUpTo entry (op.exact lhs rhs) middle (settledTotal total sums) stop) :
    SumsUpTo entry lhs start (settledTotal total ((op.exact lhs rhs, column) :: sums)) stop := by
  -- No operator of this level divides.
  have hdivisor : ¬ (op = .divide ∧ rhs = 0) := by
    rintro ⟨rfl, -⟩
    cases hlevel
  by_cases hfits : Representable (op.exact lhs rhs)
  · obtain ⟨later, stop', hchain, hstop⟩ := hmore
    rw [settledTotal_cons_of_representable hfits]
    have hcombine : op.combine lhs rhs column = .ok (op.exact lhs rhs) :=
      Operator.combine_eq_ok_iff.2 ⟨hdivisor, hfits, rfl⟩
    exact ⟨_, stop', .step hentry hlevel hterm hcombine hchain, hstop⟩
  · rw [settledTotal_cons_of_not_representable hfits]
    have hcombine : op.combine lhs rhs column = .error (.overflow column) :=
      Operator.combine_eq_error_iff.2 (.inr ⟨hdivisor, hfits, rfl⟩)
    refine ⟨_, middle, .combineFault hentry hlevel hterm hcombine, ?_⟩
    intro n hn
    cases hn

/-- A chain of sums that has a value can begin with a number that is larger by `more`.  The
induction is on the chain: all its sums are larger by `more` then. -/
theorem ChainCourse.sumsUpTo (more : Int) {lhs n : Int} {start stop : Nat} {events : List Event}
    (hcourse : ChainCourse (stream line) (TermCourse (stream line)) .sum lhs start (.ok n) events
      stop) (hends : Ends (stream line) .product start) :
    SumsUpTo (stream line) (more + lhs) start
      (settledTotal (more + n) (Summand.sums (more + lhs) (Summand.read (following line start))))
      stop := by
  generalize houtcome : Except.ok n = outcome at hcourse
  induction hcourse with
  | done hsum =>
      cases houtcome
      rw [Summand.read_of_not_operator (not_operator_of_ends hends hsum)]
      exact ⟨_, _, .done hsum, fun _ _ => rfl⟩
  | operandFault => cases houtcome
  | combineFault => cases houtcome
  | @step _ _ _ lhs rhs _ op _ _ _ _ hentry hlevel hterm hcombine _ ih =>
      obtain ⟨-, -, rfl⟩ := Operator.combine_eq_ok_iff.1 hcombine
      have hlarger : more + op.exact lhs rhs = op.exact (more + lhs) rhs := by
        cases op with
        | add => exact (Int.add_assoc more lhs rhs).symm
        | subtract => exact (Int.add_sub_assoc more lhs rhs).symm
        | multiply => cases hlevel
        | divide => cases hlevel
      have hchain := ih (TermCourse.ends hterm) houtcome
      rw [hlarger] at hchain
      rw [Summand.read_of_termCourse hentry hterm, Summand.sums]
      exact SumsUpTo.cons hentry hlevel hterm hchain

end Evaluation

/-! The joined line. -/

/-- Some text is further on as a whole. -/
theorem lexemesFrom_eq_map_shift (column : Column) (text : List Char) :
    lexemesFrom column text = (lexemes text).map (Lexeme.shift column) := by
  have hshift : List.Forall₂ Eq ((lexemes text).map (Lexeme.shift column))
      (lexemesFrom column text) := by
    rw [List.forall₂_map_left_iff]
    refine (later_lexemesFrom column text).imp fun lexeme lexeme' hlexeme => ?_
    rw [Lexeme.shift, ← hlexeme.token_eq, ← hlexeme.column_moved]
  rw [List.forall₂_eq_eq_eq] at hshift
  exact hshift.symm

theorem lexemes_join (a b : String) :
    lexemes (a ++ "+" ++ b).toList =
      lexemes a.toList ++ ⟨.operator .add, a.length⟩ ::
        (lexemes b.toList).map (Lexeme.shift (a.length + 1)) := by
  have hline : (a ++ "+" ++ b).toList = a.toList ++ Operator.add.symbol :: b.toList := by
    rw [String.toList_append, String.toList_append, List.append_assoc]
    rfl
  have hapart : Apart a.toList (Operator.add.symbol :: b.toList) := by
    apply apart_of_head?
    intro first hfirst
    obtain rfl : Operator.add.symbol = first := by simpa using hfirst
    rfl
  rw [hline, lexemes_append hapart, lexemesFrom_symbol_cons, lexemesFrom_eq_map_shift,
    String.length_toList]

theorem following_join (a b : String) :
    following (a ++ "+" ++ b).toList (lexemes a.toList).length =
      ⟨.operator .add, a.length⟩ :: (lexemes b.toList).map (Lexeme.shift (a.length + 1)) := by
  rw [following, lexemes_join, List.drop_left]

/-- The second line is further on in the joined line, behind the first one and the plus sign. -/
theorem corresponds_join (a b : String) (limit : Nat) :
    Corresponds (Later (a.length + 1)) (stream b.toList) (stream (a ++ "+" ++ b).toList) limit
      (Later ((lexemes a.toList).length + 1)) (Later ((lexemes a.toList).length + 1)) := by
  apply corresponds_of_following
  · rw [(stream_of_following_cons (following_join a b)).2, List.forall₂_map_right_iff]
    exact List.forall₂_same.2 fun _ _ => ⟨rfl, rfl⟩
  · have hsign : "+".length = 1 := rfl
    show (a ++ "+" ++ b).toList.length = b.toList.length + (a.length + 1)
    simp only [String.length_toList, String.length_append]
    omega

/-- A line that strict mode accepts is read up to its end. -/
theorem exists_course_of_strict {line : String} {n : Int}
    (hstrict : evaluate .strict line = .ok n) :
    ∃ events stop, ExpressionCourse (stream line.toList) 0 (.ok n) events stop ∧
      (stream line.toList stop).token = .endOfLine := by
  have hline := ne_empty_of_value hstrict
  obtain ⟨result, events, stop, hcourse⟩ := exists_course line
  cases result with
  | error fault =>
      rw [evaluate_strict_of_fault hline hcourse] at hstrict
      cases hstrict
  | ok m =>
      rw [evaluate_strict_of_value hline hcourse] at hstrict
      split at hstrict
      · next hend =>
          cases hstrict
          exact ⟨events, stop, hcourse, hend⟩
      · cases hstrict

section

variable {a b : String} {x y : Int}

/-- The first line is an expression in the joined line, up to the plus sign. -/
theorem exists_writtenBy_join (ha : evaluate .strict a = .ok x) :
    ∃ formula : Formula, formula.Grammatical ∧
      formula.WrittenBy (stream (a ++ "+" ++ b).toList) 0 (lexemes a.toList).length ∧
      formula.Sound ∧ formula.value = x := by
  obtain ⟨formula, hgrammatical, htokens, hsound, hvalue⟩ := exists_formula_of_strict_value ha
  have hfront : ∃ rest, tokensFrom (a ++ "+" ++ b).toList 0 = formula.spelling ++ rest := by
    rw [tokensFrom, following_zero, lexemes_join, List.map_append, htokens]
    exact ⟨_, rfl⟩
  obtain ⟨rest, hrest⟩ := hfront
  obtain ⟨stop, hwritten, -⟩ := exists_writtenBy hrest
  have hstop := hwritten.stop_eq
  rw [← htokens, List.length_map, Nat.zero_add] at hstop
  rw [hstop] at hwritten
  exact ⟨formula, hgrammatical, hwritten, hsound, hvalue⟩

/-- The second line is an expression in the joined line, behind the plus sign. -/
theorem exists_course_join (a : String) (hb : evaluate .strict b = .ok y) :
    ∃ events stop,
      ExpressionCourse (stream (a ++ "+" ++ b).toList) ((lexemes a.toList).length + 1) (.ok y)
        events stop ∧ (stream (a ++ "+" ++ b).toList stop).token = .endOfLine := by
  obtain ⟨events, stop, hcourse, hend⟩ := exists_course_of_strict hb
  have hcorresponds := corresponds_join a b stop
  have henter : Later ((lexemes a.toList).length + 1) 0 ((lexemes a.toList).length + 1) :=
    (Nat.zero_add _).symm
  obtain ⟨result, events', stop', hcourse', hresult, hplace⟩ :=
    carries_expressionCourse hcorresponds hcourse (Nat.le_refl stop) henter
  obtain rfl := hresult.eq_ok
  have hlast := hcorresponds.displaced stop stop' hplace (Nat.le_refl stop)
  exact ⟨events', stop', hcourse', hlast.token_eq.trans hend⟩

/-- The chain of sums behind the first line begins with the plus sign and the first term of the
second line, and goes on with the sums of that line. -/
theorem sumsUpTo_join (x : Int) (a : String) (hb : evaluate .strict b = .ok y) :
    ∃ stop, SumsUpTo (stream (a ++ "+" ++ b).toList) x (lexemes a.toList).length
        (settledTotal (x + y) (joinedSums x a b)) stop ∧
      (stream (a ++ "+" ++ b).toList stop).token = .endOfLine := by
  obtain ⟨events, stop, hcourse, hend⟩ := exists_course_join a hb
  refine ⟨stop, ?_, hend⟩
  have hsign := (stream_of_following_cons (following_join a b)).1
  rw [joinedSums, ← following_join]
  cases hcourse with
  | chain hterm hchain =>
      rw [Summand.read_of_termCourse hsign hterm, Summand.sums]
      exact SumsUpTo.cons hsign rfl hterm (hchain.sumsUpTo x (TermCourse.ends hterm))

/-- The joined line gives a settled total, in either mode. -/
theorem evaluate_join_eq (mode : Mode) (ha : evaluate .strict a = .ok x)
    (hb : evaluate .strict b = .ok y) :
    evaluate mode (a ++ "+" ++ b) = settledTotal (x + y) (joinedSums x a b) := by
  have hline : a ++ "+" ++ b ≠ "" := by
    intro hempty
    have hlength := congrArg String.length hempty
    simp [String.length_append] at hlength
  obtain ⟨formula, hgrammatical, hwritten, hsound, rfl⟩ := exists_writtenBy_join (b := b) ha
  obtain ⟨stop, ⟨later, stop', hchain, hstop⟩, hend⟩ := sumsUpTo_join formula.value a hb
  have hends : Ends (stream (a ++ "+" ++ b).toList) .product (lexemes a.toList).length := by
    intro op htoken
    rw [(stream_of_following_cons (following_join a b)).1] at htoken
    cases htoken
    exact Level.noConfusion
  obtain ⟨events, hcourse⟩ :=
    exists_expressionCourse_of_chain hgrammatical hwritten hsound hends hchain
  cases mode with
  | lenient => exact evaluate_lenient_of_course hline hcourse
  | strict =>
      cases hresult : settledTotal (formula.value + y) (joinedSums formula.value a b) with
      | error fault =>
          rw [hresult] at hcourse
          exact evaluate_strict_of_fault hline hcourse
      | ok n =>
          rw [hresult] at hcourse
          rw [evaluate_strict_of_value hline hcourse, hstop n hresult, if_pos hend]

end

/-- Joining two lines that strict mode accepts with a plus sign.  The sums that count are those of
the value of the first line and the terms of the second one, one term more at a time from the left;
the first of them stands at the plus sign, and the others at the sums of the second line, which are
further on there by the length of the first line and one more.

In either mode the joined line has the sum of both values exactly if all these sums fit, and
otherwise it overflows at the first one that does not. -/
theorem evaluate_join (mode : Mode) {a b : String} {x y : Int} (ha : evaluate .strict a = .ok x)
    (hb : evaluate .strict b = .ok y) :
    (evaluate mode (a ++ "+" ++ b) = .ok (x + y) ↔
        ∀ sum ∈ joinedSums x a b, Representable sum.1) ∧
      ∀ before sum column behind, joinedSums x a b = before ++ (sum, column) :: behind →
        (∀ earlier ∈ before, Representable earlier.1) → ¬ Representable sum →
          evaluate mode (a ++ "+" ++ b) = .error (.overflow column) := by
  rw [evaluate_join_eq mode ha hb]
  refine ⟨settledTotal_eq_ok_iff, ?_⟩
  intro before sum column behind hsums hbefore hfits
  rw [hsums]
  exact settledTotal_append_cons hbefore hfits

-- The plus sign stands behind the blank, and the minus sign four columns further on.
example : joinedSums 5 "5 " "2*3-7" = [(11, 2), (4, 6)] := by decide

/-- The value of the second line fits in behind the first one, but its first term does not. -/
theorem evaluate_join_overflow :
    (evaluate .strict "9223372036854775807" = .ok 9223372036854775807 ∧
        evaluate .strict "2*3-7" = .ok (-1)) ∧
      evaluate .strict ("9223372036854775807" ++ "+" ++ "2*3-7") = .error (.overflow 19) := by
  have ha : evaluate .strict "9223372036854775807" = .ok 9223372036854775807 :=
    evaluate_strict_of_spelling (.term (.number 9223372036854775807)) (by decide) (by decide)
  have hgrammatical : (Formula.combined .subtract
      (.combined .multiply (.number 2) (.number 3)) (.number 7)).Grammatical :=
    .combined rfl (.term (.combined 3 rfl (.number 2))) (.number 7)
  have hb : evaluate .strict "2*3-7" = .ok (-1) :=
    evaluate_strict_of_spelling hgrammatical (by decide) (by decide)
  refine ⟨⟨ha, hb⟩, ?_⟩
  apply (evaluate_join .strict ha hb).2 []
  · rfl
  · exact List.forall_mem_nil _
  · decide

end LineCalculator
