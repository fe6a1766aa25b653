import LineCalculator.Proofs.Acceptance
import LineCalculator.Proofs.Account
import LineCalculator.Proofs.Position
import LineCalculator.Proofs.Spans

/-!
# Oversized literals

A literal beyond the greatest integer is refused in two places.  The sequence of acceptable
tokens is over at the first one, whatever stands around it.  Evaluation refuses one only where
it needs a number, and never reads behind its first fault.

Both look at the lexemes of a line from the left, and no entry of an expression closes the
sequence of acceptable tokens.  So an evaluation that refuses an oversized literal refuses the
first one; and if there is a first one, an evaluation either stops in front of it or finds it as
an operand or behind a complete expression.

Main statement: `evaluate_of_tokenize`.
-/

namespace LineCalculator

open Evaluation Formula Scanner Segmentation

namespace Fault

/-- The column that a fault is reported at, if it has one. -/
def column? : Fault → Option Column
  | emptyLine => none
  | unexpected _ _ column => some column
  | divisionByZero column => some column
  | literalTooLarge column => some column
  | overflow column => some column

/-- A fault is reported in front of a column, or at that column as one of some faults. -/
def UpTo (column : Column) (there : List Fault) (fault : Fault) : Prop :=
  ∃ found ≤ column, fault.column? = some found ∧ (found = column → fault ∈ there)

theorem upTo_of_lt {found column : Column} {fault : Fault} (there : List Fault)
    (hcolumn : fault.column? = some found) (hlt : found < column) : fault.UpTo column there :=
  ⟨found, Nat.le_of_lt hlt, hcolumn, fun heq => absurd heq (Nat.ne_of_lt hlt)⟩

theorem upTo_of_mem {column : Column} {fault : Fault} {there : List Fault}
    (hcolumn : fault.column? = some column) (hmem : fault ∈ there) : fault.UpTo column there :=
  ⟨column, Nat.le_refl column, hcolumn, fun _ => hmem⟩

theorem UpTo.mono {column : Column} {fault : Fault} {there there' : List Fault}
    (hupTo : fault.UpTo column there) (hsub : there ⊆ there') : fault.UpTo column there' := by
  obtain ⟨found, hle, hcolumn, hmem⟩ := hupTo
  exact ⟨found, hle, hcolumn, fun heq => hsub (hmem heq)⟩

/-- What an operator fails with is reported where it stands. -/
theorem column?_of_combine {op : Operator} {lhs rhs : Int} {column : Column} {fault : Fault}
    (hcombine : op.combine lhs rhs column = .error fault) : fault.column? = some column := by
  rcases Operator.combine_eq_error_iff.1 hcombine with ⟨-, -, rfl⟩ | ⟨-, -, rfl⟩ <;> rfl

end Fault

namespace Formula

variable {entry : Nat → Lexeme} {formula : Formula} {start stop index : Nat}

/-- No entry of a formula closes the sequence of acceptable tokens. -/
theorem WrittenBy.closes_eq_false (hwritten : formula.WrittenBy entry start stop)
    (hfrom : start ≤ index) (hto : index < stop) : closes (entry index).token = false := by
  induction formula generalizing start stop with
  | number n =>
      obtain ⟨htoken, rfl⟩ := hwritten
      obtain rfl : start = index := by omega
      rw [htoken]
      rfl
  | combined op lhs rhs ihlhs ihrhs =>
      obtain ⟨middle, hlhs, htoken, hrhs⟩ := hwritten
      rcases Nat.lt_trichotomy index middle with hlt | rfl | hgt
      · exact ihlhs hlhs hfrom hlt
      · rw [htoken]
        rfl
      · exact ihrhs hrhs hgt hto

/-- The same holds in front of a last number that is missing. -/
theorem BrokenOff.closes_eq_false (hbroken : formula.BrokenOff entry start stop)
    (hfrom : start ≤ index) (hto : index < stop) : closes (entry index).token = false := by
  induction formula generalizing start stop with
  | number n =>
      obtain rfl : stop = start := hbroken
      exact absurd hto (Nat.not_lt.2 hfrom)
  | combined op lhs rhs _ ihrhs =>
      obtain ⟨middle, hlhs, htoken, hrhs⟩ := hbroken
      rcases Nat.lt_trichotomy index middle with hlt | rfl | hgt
      · exact hlhs.closes_eq_false hfrom hlt
      · rw [htoken]
        rfl
      · exact ihrhs hrhs hgt hto

end Formula

namespace Segmentation

/-- The first lexeme that closes the sequence of acceptable tokens is an oversized literal. -/
structure FirstOversized (line : List Char) (literal : Nat) (column : Column) : Prop where
  entry_eq : stream line literal = ⟨.oversized, column⟩
  closes_eq_false : ∀ index < literal, closes (stream line index).token = false

variable {line : List Char} {literal index stop : Nat} {column : Column}

/-- In front of the end, the stream is the list of the lexemes. -/
theorem stream_of_lt (hindex : index < (lexemes line).length) :
    stream line index = (lexemes line)[index] := by
  rw [stream, List.getElem?_eq_getElem hindex]
  rfl

/-- The first oversized literal can be found in the list of the lexemes. -/
theorem find?_closes_eq_some_iff :
    (lexemes line).find? (fun lexeme => closes lexeme.token) = some ⟨.oversized, column⟩ ↔
      ∃ literal, FirstOversized line literal column := by
  rw [List.find?_eq_some_iff_getElem]
  constructor
  · rintro ⟨-, literal, hliteral, hentry, hbefore⟩
    refine ⟨literal, by rw [stream_of_lt hliteral, hentry], ?_⟩
    intro index hindex
    rw [stream_of_lt (Nat.lt_trans hindex hliteral)]
    simpa using hbefore index hindex
  · rintro ⟨literal, hentry, hbefore⟩
    have hliteral : literal < (lexemes line).length := by
      by_contra hbeyond
      have hend := token_eq_endOfLine_iff.2 (Nat.le_of_not_lt hbeyond)
      rw [hentry] at hend
      cases hend
    refine ⟨rfl, literal, hliteral, by rw [← stream_of_lt hliteral, hentry], ?_⟩
    intro index hindex
    rw [← stream_of_lt (Nat.lt_trans hindex hliteral), hbefore index hindex]
    rfl

/-- Entries that do not close the sequence of acceptable tokens stand in front of the first
oversized literal. -/
theorem FirstOversized.le (hfirst : FirstOversized line literal column)
    (hopen : ∀ index < stop, closes (stream line index).token = false) : stop ≤ literal := by
  by_contra hlt
  have hcloses := hopen literal (Nat.lt_of_not_le hlt)
  rw [hfirst.entry_eq] at hcloses
  cases hcloses

/-- A formula at the beginning of a line ends in front of the first oversized literal. -/
theorem FirstOversized.stop_le {formula : Formula} (hfirst : FirstOversized line literal column)
    (hwritten : formula.WrittenBy (stream line) 0 stop) : stop ≤ literal :=
  hfirst.le fun index hindex => hwritten.closes_eq_false (Nat.zero_le index) hindex

/-- There is one first oversized literal. -/
theorem FirstOversized.column_eq {literal' : Nat} {column' : Column}
    (hfirst : FirstOversized line literal column) (hfirst' : FirstOversized line literal' column') :
    column' = column := by
  obtain rfl : literal' = literal :=
    Nat.le_antisymm (hfirst.le hfirst'.closes_eq_false) (hfirst'.le hfirst.closes_eq_false)
  have hentry := hfirst'.entry_eq
  rw [hfirst.entry_eq] at hentry
  cases hentry
  rfl

/-- The end of the line does not come in front of an oversized literal. -/
theorem FirstOversized.token_ne_endOfLine (hfirst : FirstOversized line literal column)
    (hindex : index < literal) : (stream line index).token ≠ .endOfLine := by
  intro hend
  have hopen := hfirst.closes_eq_false index hindex
  rw [hend] at hopen
  cases hopen

/-- The first oversized literal stands behind the lexemes in front of it. -/
theorem FirstOversized.column_lt {line : String}
    (hfirst : FirstOversized line.toList literal column) (hindex : index < literal) :
    (stream line.toList index).column < column := by
  have hlt := column_lt_column line hindex (hfirst.token_ne_endOfLine hindex)
  rwa [hfirst.entry_eq] at hlt

theorem FirstOversized.line_ne_empty {line : String}
    (hfirst : FirstOversized line.toList literal column) : line ≠ "" := by
  rintro rfl
  cases hfirst.entry_eq

/-- Only the first oversized literal can be needed as a number. -/
theorem exists_firstOversized_of_account {kind : Formula → Prop} {done : List Event}
    (haccount : Account (stream line) kind 0 (.error (.literalTooLarge column)) done stop) :
    ∃ literal, FirstOversized line literal column := by
  cases haccount with
  | failed _ _ _ _ _ _ hcombine =>
      -- No combination fails with this fault.
      rcases Operator.combine_eq_error_iff.1 hcombine with ⟨-, -, hsame⟩ | ⟨-, -, hsame⟩ <;>
        cases hsame
  | oversized _ hbroken hentry =>
      exact ⟨_, hentry, fun index hindex => hbroken.closes_eq_false (Nat.zero_le index) hindex⟩

/-- An evaluation that meets a fault meets it in front of the first oversized literal, or it
needs that literal. -/
theorem FirstOversized.upTo {line : String} (hfirst : FirstOversized line.toList literal column)
    {kind : Formula → Prop} {fault : Fault} {done : List Event}
    (haccount : Account (stream line.toList) kind 0 (.error fault) done stop) :
    fault.UpTo column [.literalTooLarge column] := by
  cases haccount with
  | failed _ hwritten _ _ hbefore hentry hcombine =>
      have hlt := hfirst.column_lt (Nat.lt_of_lt_of_le hbefore (hfirst.stop_le hwritten))
      rw [hentry] at hlt
      exact Fault.upTo_of_lt _ (Fault.column?_of_combine hcombine) hlt
  | missing _ hbroken hcategory =>
      have hle := hfirst.le fun index hindex =>
        hbroken.closes_eq_false (Nat.zero_le index) hindex
      -- The literal counts as a number, so it is not what stands in the place of one.
      have hne : stop ≠ literal := by
        rintro rfl
        rw [hfirst.entry_eq] at hcategory
        exact hcategory rfl
      exact Fault.upTo_of_lt _ rfl (hfirst.column_lt (Nat.lt_of_le_of_ne hle hne))
  | oversized hkind hbroken hentry =>
      obtain ⟨literal', hfirst'⟩ := exists_firstOversized_of_account
        (.oversized hkind hbroken hentry : Account _ kind 0 _ _ _)
      obtain rfl := hfirst.column_eq hfirst'
      exact Fault.upTo_of_mem rfl (List.mem_singleton_self _)

end Segmentation

variable {line : String} {mode : Mode} {column : Column}

/-- A line has no acceptable tokens for the first oversized literal and for no other. -/
theorem tokenize_eq_literalTooLarge_iff :
    tokenize line = .error (.literalTooLarge column) ↔
      ∃ literal, FirstOversized line.toList literal column := by
  rw [← find?_closes_eq_some_iff]
  by_cases hline : line = ""
  · subst hline
    constructor
    · intro hfault
      cases hfault
    · intro hfind
      cases hfind
  · rw [tokenize_of_ne hline, accepted_eq_error_iff]
    simp

/-- Only the empty line has no acceptable tokens for being empty. -/
theorem tokenize_eq_emptyLine_iff : tokenize line = .error .emptyLine ↔ line = "" := by
  constructor
  · intro hfault
    by_contra hline
    rw [tokenize_of_ne hline, accepted_eq_error_iff] at hfault
    obtain ⟨column, -, hfault⟩ := hfault
    cases hfault
  · rintro rfl
    rfl

/-- Strict mode adds nothing but the refusal of a lexeme, so any other fault is one of the
expression. -/
theorem exists_course_of_fault {fault : Fault} (hline : line ≠ "")
    (hfault : evaluate mode line = .error fault)
    (hother : ∀ found column, fault ≠ .unexpected .endOfLine found column) :
    ∃ events stop, ExpressionCourse (stream line.toList) 0 (.error fault) events stop := by
  cases mode with
  | lenient => exact exists_course_of_lenient hline hfault
  | strict =>
      obtain ⟨result, events, stop, hcourse⟩ := exists_course line
      cases result with
      | error fault' =>
          rw [evaluate_strict_of_fault hline hcourse] at hfault
          cases hfault
          exact ⟨events, stop, hcourse⟩
      | ok n =>
          rw [evaluate_strict_of_value hline hcourse] at hfault
          split at hfault
          · cases hfault
          · cases hfault
            exact absurd rfl (hother _ _)

/-- Only the empty line is refused for being empty. -/
theorem evaluate_eq_emptyLine_iff : evaluate mode line = .error .emptyLine ↔ line = "" := by
  constructor
  · intro hfault
    by_contra hline
    obtain ⟨events, stop, hcourse⟩ := exists_course_of_fault hline hfault (by simp)
    exact evident_expressionCourse (literals_stream _) hcourse
  · rintro rfl
    exact evaluate_empty mode

/-- An oversized literal that an evaluation refuses is the first one. -/
theorem tokenize_of_evaluate (hfault : evaluate mode line = .error (.literalTooLarge column)) :
    tokenize line = .error (.literalTooLarge column) := by
  have hline : line ≠ "" := by
    rintro rfl
    rw [evaluate_empty] at hfault
    cases hfault
  obtain ⟨events, stop, hcourse⟩ := exists_course_of_fault hline hfault (by simp)
  rw [tokenize_eq_literalTooLarge_iff]
  exact exists_firstOversized_of_account (accounted_expressionCourse (literals_stream _) hcourse)

/-- A line has an expression of some value, all of it in front of a column. -/
def EndsBefore (line : String) (n : Int) (column : Column) : Prop :=
  ∃ stop, ReadsExpression (stream line.toList) n 0 stop ∧
    ∀ index < stop, ((ofString line).after index).span.stop ≤ column

/-- With an oversized literal in the line, an expression that has a value ends in front of it. -/
theorem evaluate_lenient_of_firstOversized {literal : Nat}
    (hfirst : FirstOversized line.toList literal column) :
    (∃ n, evaluate .lenient line = .ok n ∧ EndsBefore line n column) ∨
      ∃ fault, evaluate .lenient line = .error fault ∧
        fault.UpTo column [.literalTooLarge column] := by
  have hliterals := literals_stream line.toList
  obtain ⟨result, events, stop, hcourse⟩ := exists_course line
  rw [evaluate_lenient_of_course hfirst.line_ne_empty hcourse]
  cases result with
  | error fault =>
      have haccount := accounted_expressionCourse hliterals hcourse
      exact .inr ⟨fault, rfl, hfirst.upTo haccount⟩
  | ok n =>
      obtain ⟨formula, hgrammatical, hreads⟩ := hcourse.readsAs hliterals
      have hle := hfirst.stop_le hreads.written
      refine .inl ⟨n, rfl, stop, ⟨formula, hgrammatical, hreads, hcourse.not_operator⟩, ?_⟩
      intro index hindex
      have hspan := span_stop_le_column line (Nat.lt_of_lt_of_le hindex hle)
      rwa [hfirst.entry_eq] at hspan

/-- With an oversized literal in the line, strict mode refuses something up to there. -/
theorem evaluate_strict_of_firstOversized {literal : Nat}
    (hfirst : FirstOversized line.toList literal column) :
    ∃ fault, evaluate .strict line = .error fault ∧
      fault.UpTo column [.literalTooLarge column, .unexpected .endOfLine .oversized column] := by
  have hliterals := literals_stream line.toList
  obtain ⟨result, events, stop, hcourse⟩ := exists_course line
  cases result with
  | error fault =>
      have haccount := accounted_expressionCourse hliterals hcourse
      refine ⟨fault, evaluate_strict_of_fault hfirst.line_ne_empty hcourse, ?_⟩
      exact (hfirst.upTo haccount).mono (List.cons_subset_cons _ (List.nil_subset _))
  | ok n =>
      obtain ⟨formula, -, hreads⟩ := hcourse.readsAs hliterals
      rw [evaluate_strict_of_value hfirst.line_ne_empty hcourse]
      -- What is left over begins in front of the literal or with it.
      rcases Nat.lt_or_eq_of_le (hfirst.stop_le hreads.written) with hlt | rfl
      · rw [if_neg (hfirst.token_ne_endOfLine hlt)]
        exact ⟨_, rfl, Fault.upTo_of_lt _ rfl (hfirst.column_lt hlt)⟩
      · rw [hfirst.entry_eq, if_neg Token.noConfusion]
        exact ⟨_, rfl, Fault.upTo_of_mem rfl (by simp)⟩

/-- The acceptable tokens of a line and its evaluation agree on oversized literals.

* If evaluation refuses an oversized literal, in either mode, the line has no acceptable tokens
  for the same literal.  So if it has them, neither mode refuses an oversized literal.
* If the line has no acceptable tokens for an oversized literal, strict mode finds a fault at
  the column of that literal or in front of it; and at that column only because it needs the
  literal as a number or refuses it behind a complete expression.
* Lenient mode then has a value, of an expression that ends in front of the literal, or likewise
  a fault; and at that column only because it needs the literal as a number.
* Both refuse the empty line, and no other, for being empty. -/
theorem evaluate_of_tokenize (line : String) :
    (∀ mode column, evaluate mode line = .error (.literalTooLarge column) →
      tokenize line = .error (.literalTooLarge column)) ∧
      (∀ tokens, tokenize line = .ok tokens →
        ∀ mode column, evaluate mode line ≠ .error (.literalTooLarge column)) ∧
      (∀ column, tokenize line = .error (.literalTooLarge column) →
        (∃ fault, evaluate .strict line = .error fault ∧
          fault.UpTo column
            [.literalTooLarge column, .unexpected .endOfLine .oversized column]) ∧
        ((∃ n, evaluate .lenient line = .ok n ∧ EndsBefore line n column) ∨
          ∃ fault, evaluate .lenient line = .error fault ∧
            fault.UpTo column [.literalTooLarge column])) ∧
      ∀ mode, tokenize line = .error .emptyLine ↔ evaluate mode line = .error .emptyLine := by
  refine ⟨?_, ?_, ?_, ?_⟩
  · intro mode column hfault
    exact tokenize_of_evaluate hfault
  · intro tokens htokens mode column hfault
    rw [tokenize_of_evaluate hfault] at htokens
    cases htokens
  · intro column hfault
    obtain ⟨literal, hfirst⟩ := tokenize_eq_literalTooLarge_iff.1 hfault
    exact ⟨evaluate_strict_of_firstOversized hfirst, evaluate_lenient_of_firstOversized hfirst⟩
  · intro mode
    rw [tokenize_eq_emptyLine_iff, evaluate_eq_emptyLine_iff]

end LineCalculator
