import LineCalculator.Proofs.WholeLine

/-!
# Precedence

The value of a line is the value of a tree, although evaluation builds none.  The tree
is taken from the tokens of the line, which are cut out without a scanner, and it is
built without evaluating anything.

Main statement: in lenient mode a line has a value exactly if its tokens begin with an
expression that no operator continues and all values in the tree of that expression
exist and fit; the value of the line is then the value at the root.
-/

namespace LineCalculator

open Evaluation Formula Segmentation

/-- A value of a line comes from a tree of the grammar at the front of the line, which the
entry behind it does not continue. -/
theorem exists_formula_of_value {line : String} {n : Int} (hline : line ≠ "")
    (hvalue : evaluate .lenient line = .ok n) :
    ∃ formula events stop, formula.Grammatical ∧
      ReadsAs (stream line.toList) formula 0 stop n ∧
      (∀ op, (stream line.toList stop).token ≠ .operator op) ∧
      ExpressionCourse (stream line.toList) 0 (.ok n) events stop := by
  obtain ⟨events, stop, hcourse⟩ := exists_course_of_lenient hline hvalue
  obtain ⟨formula, hgrammatical, hreads⟩ := hcourse.readsAs (literals_stream _)
  exact ⟨formula, events, stop, hgrammatical, hreads, hcourse.not_operator, hcourse⟩

/-- The empty line has no value. -/
theorem ne_empty_of_value {mode : Mode} {line : String} {n : Int}
    (hvalue : evaluate mode line = .ok n) : line ≠ "" := by
  rintro rfl
  rw [evaluate_empty] at hvalue
  cases hvalue

/-- The empty line has no tokens, so no expression stands in it. -/
theorem ne_empty_of_tokens {line : String} {token : Token} {more : List Token}
    (htokens : tokensFrom line.toList 0 = token :: more) : line ≠ "" := by
  rintro rfl
  cases htokens

/-- A line has a value in lenient mode exactly if its tokens begin with a chain of numbers
and operators such that

* what stands behind the chain is no operator: the end of the line, a number or an invalid
  character,
* in the tree of the chain, every divisor differs from zero and every value fits.

The tree is the one in which products bind tighter than sums and every operator
associates to the left (`grammatical_iff_exists_ofChain`), and its value is the exact one,
with division toward zero.  A literal beyond the greatest integer is no number token, so
it is never part of the chain. -/
theorem evaluate_lenient_eq_ok_iff (line : String) (n : Int) :
    evaluate .lenient line = .ok n ↔
      ∃ first more,
        Token.chain first more <+: (lexemes line.toList).map Lexeme.token ∧
        (∀ op, (stream line.toList (Token.chain first more).length).token ≠ .operator op) ∧
        (ofChain first more).Sound ∧ (ofChain first more).value = n := by
  constructor
  · intro hvalue
    have hline := ne_empty_of_value hvalue
    -- The course reads a tree of the grammar, and such a tree is the tree of a chain.
    obtain ⟨formula, _, stop, hgrammatical, hreads, hends, -⟩ :=
      exists_formula_of_value hline hvalue
    obtain ⟨first, more, rfl⟩ := grammatical_iff_exists_ofChain.1 hgrammatical
    have htokens := tokensFrom_of_writtenBy hreads.written
    have hstop := hreads.written.stop_eq
    rw [spelling_ofChain] at htokens hstop
    rw [Nat.zero_add] at hstop
    subst hstop
    have hfront : Token.chain first more <+: tokensFrom line.toList 0 := ⟨_, htokens.symm⟩
    exact ⟨first, more, hfront, hends, hreads.sound, hreads.value_eq⟩
  · -- A sound tree that no operator continues has a course, and there is only one course.
    rintro ⟨first, more, ⟨rest, hrest⟩, hends, hsound, rfl⟩
    have htokens : tokensFrom line.toList 0 = (ofChain first more).spelling ++ rest := by
      rw [spelling_ofChain, hrest]
      rfl
    have hline : line ≠ "" := by
      rw [spelling_ofChain] at htokens
      exact ne_empty_of_tokens htokens
    obtain ⟨stop, hwritten, -⟩ := exists_writtenBy htokens
    have hstop := hwritten.stop_eq
    rw [spelling_ofChain, Nat.zero_add] at hstop
    subst hstop
    obtain ⟨events, hcourse⟩ :=
      exists_expressionCourse (grammatical_ofChain first more) hwritten hsound hends
    exact evaluate_lenient_of_course hline hcourse

end LineCalculator
