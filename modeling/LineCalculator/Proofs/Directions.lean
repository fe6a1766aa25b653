import LineCalculator.Proofs.Signs

/-!
# Directions of overflow

The signs of the operands settle on which side a result can leave the range: a sum or a product is
too large, a difference is too small, and a quotient always fits.  A division fails for a zero
divisor alone, which is a literal of nothing but zeros.

Here this is said of the text of the line, for any request to any state that can be reached: the
operator that fails stands at the column that is reported, and the literal is read off the
characters behind it.

Main statement: `signed_reached`.
-/

namespace LineCalculator

open Evaluation Formula Scanner Segmentation

/-! Operators and literals in a line. -/

namespace Segmentation

theorem numeral_ne_operator (run : List Char) (op : Operator) : numeral run ≠ .operator op := by
  unfold numeral
  split <;> exact Token.noConfusion

theorem numeral_eq_zero_iff {run : List Char} :
    numeral run = .number 0 ↔ Decimal.value run = 0 := by
  unfold numeral
  split
  · rw [Token.number.injEq, Int.natCast_eq_zero]
  · next hlarge =>
      refine ⟨Token.noConfusion, fun hzero => absurd ?_ hlarge⟩
      rw [hzero]
      decide

/-- An operator stands in the line at its column. -/
theorem getElem?_of_operator {line : String} {index : Nat} {op : Operator} {column : Column}
    (hentry : stream line.toList index = ⟨.operator op, column⟩) :
    line.toList[column]? = some op.symbol := by
  have hindex : index < (lexemes line.toList).length := by
    by_contra hbeyond
    have hend := token_eq_endOfLine_iff.2 (Nat.le_of_not_lt hbeyond)
    rw [hentry] at hend
    cases hend
  have hholds := holds_span line hindex
  have hstart : ((ofString line).after index).span.start = column := by
    show ((ofString line).after index).scan.1.column = column
    rw [scan_after_ofString, hentry]
  rw [scan_after_ofString, hentry] at hholds
  generalize htoken : Token.operator op = token at hholds
  cases hholds with
  | operator op' hcuts =>
      cases htoken
      rw [← hstart, hcuts.start_eq, hcuts.line_eq, List.getElem?_append_right (Nat.le_refl _),
        Nat.sub_self]
      rfl
  | invalid => cases htoken
  | @digits _ run _ _ _ _ _ _ => exact absurd htoken.symm (numeral_ne_operator run op)

/-- The text of a lexeme is a literal of nothing but zeros. -/
def ZerosAt (line : String) (index : Nat) : Prop :=
  ((ofString line).after index).spelling ≠ [] ∧
    ∀ c ∈ ((ofString line).after index).spelling, c = '0'

/-- A literal is zero if it consists of zeros only. -/
theorem ofSpelling_firstSpelling_eq_zero_iff (text : List Char) :
    Token.ofSpelling (firstSpelling text) = .number 0 ↔
      firstSpelling text ≠ [] ∧ ∀ c ∈ firstSpelling text, c = '0' := by
  cases text with
  | nil => simp [firstSpelling, Token.ofSpelling]
  | cons first more =>
      rw [firstSpelling]
      by_cases hdigit : first.isDigit = true
      · have hdigits := Text.isDigit_of_mem_run hdigit more
        have hzeros := Literal.ofDigitChars_eq_zero_iff hdigits 0
        rw [if_pos hdigit, Token.ofSpelling, if_pos hdigit, ofDigits_eq_numeral,
          numeral_eq_zero_iff, Decimal.value, hzeros]
        simp
      · -- A character that is no digit is no literal.
        rw [if_neg hdigit, Token.ofSpelling, if_neg hdigit, Token.ofSymbol]
        constructor
        · intro hnumber
          split at hnumber <;> cases hnumber
        · rintro ⟨-, hzeros⟩
          rw [hzeros first (List.mem_singleton_self first)] at hdigit
          exact absurd rfl hdigit

theorem zerosAt_iff {line : String} {index : Nat} :
    ZerosAt line index ↔ (stream line.toList index).token = .number 0 := by
  rw [← scan_after_ofString]
  exact (ofSpelling_firstSpelling_eq_zero_iff _).symm

end Segmentation

/-! The faults of a request. -/

namespace Evaluation

/-- What the faults of the arithmetic say about the operators between two entries of a line. -/
structure Directed (line : String) (start stop : Nat) {α : Type} (result : Except Fault α) :
    Prop where
  /-- The operator that fails has operands of the right signs, and a result that overflows has left
  the range on its side. -/
  applied : ∀ fault column, result = .error fault → fault.ArithmeticAt column →
    ∃ first sign op lhs rhs, Begins (stream line.toList) start first op ∧
      Applied (stream line.toList) first sign stop op column lhs rhs ∧
      op.Signed lhs.value rhs.value ∧ line.toList[column]? = some op.symbol ∧
      (fault = .overflow column → op.Exceeds lhs.value rhs.value)
  /-- A quotient never overflows. -/
  overflow_ne : ∀ column, result = .error (.overflow column) → line.toList[column]? ≠ some '/'
  /-- A division fails exactly if zeros have been read behind its sign. -/
  divisionByZero_iff : ∀ column, result = .error (.divisionByZero column) ↔
    ∃ sign, start ≤ sign ∧ sign + 2 ≤ stop ∧
      stream line.toList sign = ⟨.operator .divide, column⟩ ∧ ZerosAt line (sign + 1)

variable {line : String} {start stop : Nat}

/-- No division by zeros has been read between two entries. -/
def NoZeroDivisor (line : String) (start stop : Nat) : Prop :=
  ∀ sign, start ≤ sign → sign + 2 ≤ stop → (stream line.toList sign).token = .operator .divide →
    ¬ ZerosAt line (sign + 1)

theorem Directed.map {α β : Type} (f : α → β) {result : Except Fault α}
    (hdirected : Directed line start stop result) : Directed line start stop (result.map f) := by
  have herror : ∀ fault, result.map f = .error fault ↔ result = .error fault := by
    intro fault
    cases result <;> simp [Except.map]
  refine ⟨?_, ?_, ?_⟩
  · intro fault column hfault
    exact hdirected.applied fault column ((herror fault).1 hfault)
  · intro column hfault
    exact hdirected.overflow_ne column ((herror _).1 hfault)
  · intro column
    rw [herror]
    exact hdirected.divisionByZero_iff column

/-- A result that is no fault of the arithmetic. -/
theorem directed_of_not_arithmetic {α : Type} {result : Except Fault α}
    (hresult : ∀ fault column, result = .error fault → ¬ fault.ArithmeticAt column)
    (hzero : NoZeroDivisor line start stop) : Directed line start stop result where
  applied fault column hfault harithmetic := absurd harithmetic (hresult fault column hfault)
  overflow_ne column hfault := absurd rfl (hresult _ column hfault)
  divisionByZero_iff column := by
    constructor
    · intro hfault
      exact absurd rfl (hresult _ column hfault)
    · rintro ⟨sign, hfrom, hto, hsign, hzeros⟩
      exact absurd hzeros (hzero sign hfrom hto (by rw [hsign]))

/-- Where there is a value, no division by zeros has been read. -/
theorem Directed.noZeroDivisor {α : Type} {a : α}
    (hdirected : Directed line start stop (.ok a : Except Fault α)) :
    NoZeroDivisor line start stop := by
  intro sign hfrom hto hsign hzeros
  cases (hdirected.divisionByZero_iff _).2 ⟨sign, hfrom, hto, Lexeme.eq_of_token hsign, hzeros⟩

section

/-! One course of a line. -/

variable {course : Course} {result : Except Fault Int} {events : List Event}
  (happlied : FailsApplied (stream line.toList) course)
  (hcourse : course start result events stop)

include happlied hcourse

theorem exists_applied_of_course {fault : Fault} {column : Column} (hresult : result = .error fault)
    (hfault : fault.ArithmeticAt column) :
    ∃ first sign op lhs rhs, Begins (stream line.toList) start first op ∧
      Applied (stream line.toList) first sign stop op column lhs rhs ∧
      op.Signed lhs.value rhs.value ∧ line.toList[column]? = some op.symbol ∧
      (fault = .overflow column → op.Exceeds lhs.value rhs.value) := by
  subst hresult
  obtain ⟨first, sign, op, lhs, rhs, hbegins, hroot, hcombine⟩ := happlied hcourse hfault
  have hsigned := hroot.signed (literals_stream _)
  refine ⟨first, sign, op, lhs, rhs, hbegins, hroot, hsigned, getElem?_of_operator hroot.entry_eq,
    ?_⟩
  rintro rfl
  rcases Operator.combine_eq_error_iff.1 hcombine with ⟨-, -, hsame⟩ | ⟨hdivisor, hfits, -⟩
  · cases hsame
  · exact hsigned.exceeds hroot.left_sound.representable_value hdivisor hfits

/-- A division that fails has read a literal of zeros last. -/
theorem exists_zerosAt_of_course {column : Column}
    (hresult : result = .error (.divisionByZero column)) :
    ∃ sign, start ≤ sign ∧ sign + 2 ≤ stop ∧
      stream line.toList sign = ⟨.operator .divide, column⟩ ∧ ZerosAt line (sign + 1) := by
  subst hresult
  obtain ⟨first, sign, op, lhs, rhs, hbegins, hroot, hcombine⟩ := happlied hcourse rfl
  rcases Operator.combine_eq_error_iff.1 hcombine with ⟨rfl, hzero, -⟩ | ⟨-, -, hsame⟩
  · cases hroot.grammatical with
    | combined hlevel _ _ => cases hlevel
    | term hterm =>
        cases hterm with
        | combined n _ _ =>
            obtain ⟨hnumber, hstop⟩ := hroot.right_written
            obtain rfl : n = 0 := hzero
            have hfrom := hroot.left_written.stop_eq
            have hfirst := hbegins.le
            exact ⟨sign, by omega, by omega, hroot.entry_eq, zerosAt_iff.2 hnumber⟩
  · cases hsame

theorem directed_of_course (hzero : FailsAtZero (stream line.toList) course) :
    Directed line start stop result where
  applied fault column hresult hfault := exists_applied_of_course happlied hcourse hresult hfault
  overflow_ne column hresult := by
    obtain ⟨_, _, op, _, _, -, -, -, hsymbol, hexceeds⟩ :=
      exists_applied_of_course happlied hcourse hresult rfl
    rw [hsymbol]
    intro hdivide
    obtain rfl : op = .divide := by
      cases op with
      | divide => rfl
      | _ => cases hdivide
    exact hexceeds rfl
  divisionByZero_iff column := by
    refine ⟨exists_zerosAt_of_course happlied hcourse, ?_⟩
    rintro ⟨sign, hfrom, hto, hsign, hzeros⟩
    exact hzero hcourse sign column hfrom hto hsign (zerosAt_iff.1 hzeros)

end

/-- A computation leads from an entry to an entry, and its faults say what they have to about the
operators in between. -/
def Directs (line : String) {α : Type} (x : Evaluation α) : Prop :=
  ∀ ⦃s start⦄, s.At (stream line.toList) start →
    ∃ stop, (stateAfter (x.run s)).At (stream line.toList) stop ∧
      Directed line start stop (outcome (x.run s))

theorem Directs.map {α β : Type} (f : α → β) {x : Evaluation α} (hx : Directs line x) :
    Directs line (f <$> x) := by
  intro s start hat
  obtain ⟨stop, hstop, hdirected⟩ := hx hat
  have hmapped := hdirected.map f
  rw [run_map]
  cases hrun : x.run s <;> rw [hrun] at hstop hmapped <;> exact ⟨stop, hstop, hmapped⟩

theorem Takes.directs {x : Evaluation Int} {course : Course}
    (hx : Takes (stream line.toList) x course) (happlied : FailsApplied (stream line.toList) course)
    (hzero : FailsAtZero (stream line.toList) course) : Directs line x := by
  intro s start hat
  obtain ⟨events, stop, hcourse, hstop, -⟩ := hx s start hat
  exact ⟨stop, hstop, directed_of_course happlied hcourse hzero⟩

theorem directs_expression : Directs line expression :=
  takes_expression.directs (failsApplied_expressionCourse (literals_stream _))
    (failsAtZero_expressionCourse (literals_stream _))

theorem directs_expect (category : Category) : Directs line (expect category) := by
  intro s start hat
  -- At most one lexeme is read, and a division needs two.
  have hnone (stop : Nat) (hstop : stop ≤ start + 1) : NoZeroDivisor line start stop := by
    intro sign hfrom hto
    omega
  rw [run_expect]
  split
  · refine ⟨start + 1, hat.advance, directed_of_not_arithmetic ?_ (hnone _ (Nat.le_refl _))⟩
    intro fault column hfault
    cases hfault
  · refine ⟨start, hat, directed_of_not_arithmetic ?_ (hnone _ (Nat.le_succ _))⟩
    intro fault column hfault harithmetic
    cases hfault
    exact harithmetic

theorem directs_total (mode : Mode) : Directs line (total mode) := by
  intro s start hat
  obtain ⟨stop, hstop, hdirected⟩ := directs_expression hat
  have htotalled := totalled mode s
  generalize (total mode).run s = result at htotalled
  cases htotalled with
  | fault hrun =>
      rw [hrun] at hstop hdirected
      exact ⟨stop, hstop, hdirected⟩
  | lenient hrun =>
      rw [hrun] at hstop hdirected
      exact ⟨stop, hstop.record _, hdirected⟩
  | @strict n s' hrun hend =>
      rw [hrun] at hstop hdirected
      have hat' : s'.At (stream line.toList) stop := hstop
      refine ⟨stop + 1, hat'.advance.record _, directed_of_not_arithmetic ?_ ?_⟩
      · intro fault column hfault
        cases hfault
      · -- The end of the line, which has been read as well, is no literal.
        intro sign hfrom hto hsign hzeros
        rcases Nat.lt_or_ge stop (sign + 2) with hlt | hle
        · obtain rfl : stop = sign + 1 := by omega
          rw [zerosAt_iff, ← hat'.token_eq, hend] at hzeros
          cases hzeros
        · exact hdirected.noZeroDivisor sign hfrom hle hsign hzeros
  | leftOver hrun hmore =>
      rw [hrun] at hstop hdirected
      refine ⟨stop, hstop, directed_of_not_arithmetic ?_ hdirected.noZeroDivisor⟩
      intro fault column hfault harithmetic
      cases hfault
      exact harithmetic

theorem directs_serve (request : Request) : Directs line request.serve := by
  have hliterals := literals_stream line.toList
  refine Request.forall_serve Directs.map ?_ ?_ ?_ ?_ ?_ request
  · exact takes_factor.directs failsApplied_factorCourse failsAtZero_factorCourse
  · exact takes_term.directs (failsApplied_termCourse hliterals) (failsAtZero_termCourse hliterals)
  · exact directs_expression
  · exact directs_total
  · exact directs_expect

/-- A state over a line in which all signs are as they have to be. -/
structure SignedOver (line : String) (s : Lookahead) : Prop where
  factor : ∀ n s', Evaluation.factor.run s = .ok n s' → 0 ≤ n ∧ n ≤ greatestInteger
  term : ∀ n s', Evaluation.term.run s = .ok n s' → 0 ≤ n ∧ n ≤ greatestInteger
  /-- The combinations that have succeeded. -/
  log : ∀ event ∈ s.log.toList, event.Signed
  /-- The combination at which a request fails. -/
  serve : ∀ request : Request, ∃ start stop, s.At (stream line.toList) start ∧
    (stateAfter (request.serve.run s)).At (stream line.toList) stop ∧
    Directed line start stop (outcome (request.serve.run s))

theorem StandsSigned.signedOver {s : Lookahead} (hs : StandsSigned (stream line.toList) s) :
    SignedOver line s := by
  obtain ⟨⟨start, hat⟩, hsigned⟩ := hs
  have hliterals := literals_stream line.toList
  refine ⟨?_, ?_, hsigned, ?_⟩
  · intro n s' hrun
    obtain ⟨_, _, hcourse, -⟩ := takes_factor s start hat
    rw [hrun] at hcourse
    exact (hcourse.readsAs hliterals).bounds hliterals (.number n)
  · intro n s' hrun
    obtain ⟨_, _, hcourse, -⟩ := takes_term s start hat
    rw [hrun] at hcourse
    obtain ⟨formula, hterm, hreads⟩ := TermCourse.readsAs hliterals hcourse
    exact hreads.bounds hliterals hterm
  · intro request
    obtain ⟨stop, hstop, hdirected⟩ := directs_serve request hat
    exact ⟨start, stop, hat, hstop, hdirected⟩

/-- The faults of a whole line. -/
theorem exists_directed_evaluate (mode : Mode) (line : String) :
    ∃ stop, (finalState mode line).At (stream line.toList) stop ∧
      Directed line 0 stop (evaluate mode line) := by
  obtain ⟨stop, hstop, hdirected⟩ :=
    directs_total mode (Lookahead.at_ofScanner line 0)
  refine ⟨stop, hstop, ?_⟩
  by_cases hline : line = ""
  · -- The empty line has neither operators nor literals.
    subst hline
    refine directed_of_not_arithmetic ?_ ?_
    · intro fault column hfault harithmetic
      cases hfault
      exact harithmetic
    · intro sign _ _ hsign
      cases hsign
  · rw [evaluate_of_ne mode hline]
    exact hdirected

end Evaluation

/-- Factors and terms are never negative, in any state that can be reached on a line: some of it is
read with the scanner, then anything is asked for, with or without success.

* What a factor or a term gives lies between zero and the greatest integer.
* Every combination has a right operand that is not negative, and a product has a left one of that
  kind; this holds of those on record, which have succeeded, and of the one at which a request
  fails.
* Where a request overflows, the exact result of a sum or a product is too large, or the one of a
  difference is too small, and the sign at that column is no division.
* A request fails with a division by zero exactly where it has read, behind the sign of a division,
  a literal of nothing but zeros.

The faults of a whole line say the same in either mode. -/
theorem signed_reached (line : String) (reading : List Scanner.Request)
    (asked : List Evaluation.Request) :
    SignedOver line (reached line reading asked) ∧
      ∀ mode, ∃ stop, (finalState mode line).At (stream line.toList) stop ∧
        Directed line 0 stop (evaluate mode line) :=
  ⟨(standsSigned_reached line reading asked).signedOver,
    fun mode => exists_directed_evaluate mode line⟩

end LineCalculator
