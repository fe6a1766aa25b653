import LineCalculator.Proofs.Precedence

/-!
# Strictness

The two modes read the same expression.  The strict mode only looks at what is left over
behind it, so it never gives another value, and it never hides a fault of the expression
behind one of its own.

What is left over is described by the tokens of the line alone: the expression is the
longest front of them in which numbers and operators alternate.  Neither an operator nor
the end can be the first token behind it that strict mode refuses: an operator is taken
into the expression, where a missing operand is a fault in both modes, and the end is
what strict mode asks for.
-/

namespace LineCalculator

open Evaluation Formula Segmentation

namespace Token

/-- The longest front of some tokens in which numbers and operators alternate. -/
structure LongestFront (tokens front : List Token) : Prop where
  alternates : Alternates front
  isPrefix : front <+: tokens
  length_le : ∀ other, Alternates other → other <+: tokens → other.length ≤ front.length

/-- An alternating front that no operator follows is the longest one. -/
theorem longestFront_of_not_operator {front rest : List Token} (hfront : Alternates front)
    (hrest : ∀ op more, rest ≠ .operator op :: more) : LongestFront (front ++ rest) front where
  alternates := hfront
  isPrefix := List.prefix_append front rest
  length_le other hother hprefix := by
    by_contra hlonger
    -- A longer one would begin with this one and then need an operator.
    have hle : front.length ≤ other.length := Nat.le_of_not_le hlonger
    obtain ⟨behind, rfl⟩ :=
      List.prefix_of_prefix_length_le (List.prefix_append front rest) hprefix hle
    cases behind with
    | nil => simp at hlonger
    | cons next more =>
        obtain ⟨op, rfl⟩ := hfront.exists_operator hother
        obtain ⟨more', hmore⟩ := (List.prefix_append_right_inj front).1 hprefix
        exact hrest op (more ++ more') hmore.symm

/-- An alternating sequence is its own longest front. -/
theorem LongestFront.eq_of_alternates {tokens front : List Token} (h : LongestFront tokens front)
    (htokens : Alternates tokens) : front = tokens :=
  h.isPrefix.eq_of_length_le (h.length_le tokens htokens (List.prefix_refl tokens))

end Token

variable {line : String} {n : Int}

/-- What strict mode makes of a value, by the lexemes that are left over. -/
def refuseLeftOver (n : Int) : List Lexeme → Except Fault Int
  | [] => .ok n
  | next :: _ => .error (.unexpected .endOfLine next.token next.column)

/-- A fault in lenient mode is the same fault in strict mode. -/
theorem evaluate_strict_of_lenient_fault {fault : Fault}
    (hfault : evaluate .lenient line = .error fault) : evaluate .strict line = .error fault := by
  by_cases hline : line = ""
  · rw [hline, evaluate_empty] at hfault
    rw [hline, evaluate_empty, hfault]
  · obtain ⟨events, stop, hcourse⟩ := exists_course_of_lenient hline hfault
    exact evaluate_strict_of_fault hline hcourse

/-- Behind a value in lenient mode, strict mode refuses the first lexeme that is left over. -/
theorem evaluate_strict_of_stop {events : List Event} {stop : Nat} (hline : line ≠ "")
    (hcourse : ExpressionCourse (stream line.toList) 0 (.ok n) events stop) :
    evaluate .strict line = refuseLeftOver n (following line.toList stop) := by
  rw [evaluate_strict_of_value hline hcourse]
  rcases following_cases line.toList stop with ⟨hnil, hend⟩ | ⟨hcons, htoken⟩
  · rw [hnil, hend]
    rfl
  · rw [hcons, if_neg htoken]
    rfl

/-- A line that has a value in lenient mode is the longest front and a rest that starts
with no operator; the rest alone decides about strict mode. -/
theorem exists_front_of_value (hvalue : evaluate .lenient line = .ok n) :
    ∃ front rest, lexemes line.toList = front ++ rest ∧
      Token.LongestFront ((lexemes line.toList).map Lexeme.token) (front.map Lexeme.token) ∧
      (∀ next more, rest = next :: more → ∀ op, next.token ≠ .operator op) ∧
      evaluate .strict line = refuseLeftOver n rest := by
  have hline := ne_empty_of_value hvalue
  obtain ⟨formula, events, stop, -, hreads, hends, hcourse⟩ := exists_formula_of_value hline hvalue
  have htokens := tokensFrom_of_writtenBy hreads.written
  have hstop := hreads.written.stop_eq
  rw [Nat.zero_add] at hstop
  have hfront : ((lexemes line.toList).take stop).map Lexeme.token = formula.spelling := by
    rw [List.map_take, ← following_zero, ← tokensFrom, htokens, hstop, List.take_left]
  have hrest : ∀ op more, tokensFrom line.toList stop ≠ .operator op :: more :=
    fun op more hcons => hends op (token_of_tokensFrom_cons hcons).1
  refine ⟨_, _, (List.take_append_drop stop _).symm, ?_, ?_, evaluate_strict_of_stop hline hcourse⟩
  · rw [hfront, ← following_zero, ← tokensFrom, htokens]
    exact Token.longestFront_of_not_operator (alternates_spelling formula) hrest
  · intro next more hcons op htoken
    rw [← (stream_of_following_cons hcons).1] at htoken
    exact hends op htoken

/-- A lexeme of a line that is no operator is a number, a literal beyond the greatest
integer or an invalid character. -/
theorem token_cases_of_mem {lexeme : Lexeme} (hmem : lexeme ∈ lexemes line.toList)
    (hoperator : ∀ op, lexeme.token ≠ .operator op) :
    (∃ m, lexeme.token = .number m) ∨ lexeme.token = .oversized ∨
      ∃ c, lexeme.token = .invalid c := by
  obtain ⟨first, -, more, htoken⟩ := exists_token_of_mem_lexemes hmem
  rw [htoken] at hoperator ⊢
  rcases token_cases first more with ⟨m, h, -⟩ | h | ⟨op, h⟩ | h
  · exact .inl ⟨m, h⟩
  · exact .inr (.inl h)
  · exact absurd h (hoperator op)
  · exact .inr (.inr ⟨first, h⟩)

/-- A value stays in strict mode if the whole line is one expression. -/
theorem evaluate_strict_of_alternates (hvalue : evaluate .lenient line = .ok n)
    (hwhole : Token.Alternates ((lexemes line.toList).map Lexeme.token)) :
    evaluate .strict line = .ok n := by
  obtain ⟨front, rest, hlexemes, hlongest, -, hstrict⟩ := exists_front_of_value hvalue
  have hfront := hlongest.eq_of_alternates hwhole
  rw [hlexemes, List.map_append, List.self_eq_append_right, List.map_eq_nil_iff] at hfront
  rw [hstrict, hfront]
  rfl

/-- Strict mode refuses the lexeme behind the longest front. -/
theorem evaluate_strict_of_not_alternates (hvalue : evaluate .lenient line = .ok n)
    (hpart : ¬ Token.Alternates ((lexemes line.toList).map Lexeme.token)) :
    ∃ front next rest, lexemes line.toList = front ++ next :: rest ∧
      Token.LongestFront ((lexemes line.toList).map Lexeme.token) (front.map Lexeme.token) ∧
      evaluate .strict line = .error (.unexpected .endOfLine next.token next.column) ∧
      ((∃ m, next.token = .number m) ∨ next.token = .oversized ∨
        ∃ c, next.token = .invalid c) := by
  obtain ⟨front, rest, hlexemes, hlongest, hoperator, hstrict⟩ := exists_front_of_value hvalue
  cases rest with
  | nil =>
      rw [List.append_nil] at hlexemes
      rw [hlexemes] at hpart
      exact absurd hlongest.alternates hpart
  | cons next rest =>
      have hmem : next ∈ lexemes line.toList := by simp [hlexemes]
      exact ⟨front, next, rest, hlexemes, hlongest, hstrict,
        token_cases_of_mem hmem (hoperator next rest rfl)⟩

/-- A value in strict mode comes from a tree of the grammar that the whole line writes. -/
theorem exists_formula_of_strict_value (hstrict : evaluate .strict line = .ok n) :
    ∃ formula : Formula, formula.Grammatical ∧
      (lexemes line.toList).map Lexeme.token = formula.spelling ∧
      formula.Sound ∧ formula.value = n := by
  cases hlenient : evaluate .lenient line with
  | error fault =>
      -- Strict mode keeps the fault, so it cannot have a value.
      rw [evaluate_strict_of_lenient_fault hlenient] at hstrict
      cases hstrict
  | ok m =>
      have hline := ne_empty_of_value hlenient
      obtain ⟨formula, events, stop, hgrammatical, hreads, -, hcourse⟩ :=
        exists_formula_of_value hline hlenient
      have htokens := tokensFrom_of_writtenBy hreads.written
      -- A value in strict mode means that nothing is left over behind the tree.
      rw [evaluate_strict_of_stop hline hcourse] at hstrict
      cases hrest : following line.toList stop with
      | nil =>
          rw [hrest] at hstrict
          cases hstrict
          rw [tokensFrom, tokensFrom, hrest, List.map_nil, List.append_nil] at htokens
          exact ⟨formula, hgrammatical, htokens, hreads.sound, hreads.value_eq⟩
      | cons next rest =>
          rw [hrest] at hstrict
          cases hstrict

/-- A line that writes a sound tree of the grammar and nothing else has its value in strict
mode. -/
theorem evaluate_strict_of_spelling {formula : Formula} (hgrammatical : formula.Grammatical)
    (htokens : (lexemes line.toList).map Lexeme.token = formula.spelling)
    (hsound : formula.Sound) : evaluate .strict line = .ok formula.value := by
  have hwhole : tokensFrom line.toList 0 = formula.spelling ++ [] := by
    rw [List.append_nil, ← htokens]
    rfl
  -- The tree ends where the line does, and the end is no operator.
  obtain ⟨stop, hwritten, hstop⟩ := exists_writtenBy hwhole
  have hend : following line.toList stop = [] := List.map_eq_nil_iff.1 hstop
  have hoperator : ∀ op, (stream line.toList stop).token ≠ .operator op := by
    simp [following_eq_nil_iff.1 hend]
  obtain ⟨events, hcourse⟩ := exists_expressionCourse hgrammatical hwritten hsound hoperator
  have hline : line ≠ "" := by
    rintro rfl
    have halternates := alternates_spelling formula
    rw [← htokens] at halternates
    cases halternates
  rw [evaluate_strict_of_stop hline hcourse, hend]
  rfl

/-- The lines that strict mode accepts are the expressions without faults. -/
theorem evaluate_strict_eq_ok_iff :
    evaluate .strict line = .ok n ↔
      ∃ formula : Formula, formula.Grammatical ∧
        (lexemes line.toList).map Lexeme.token = formula.spelling ∧
        formula.Sound ∧ formula.value = n := by
  constructor
  · intro hstrict
    exact exists_formula_of_strict_value hstrict
  · rintro ⟨formula, hgrammatical, htokens, hsound, rfl⟩
    exact evaluate_strict_of_spelling hgrammatical htokens hsound

/-- Strict mode against lenient mode, on every line.

* A fault in lenient mode is the same fault in strict mode.
* A value stays if the whole line is one expression.
* Otherwise the value is refused, at the first lexeme behind the longest expression at the
  front of the line.  That lexeme is a number, a literal beyond the greatest integer or an
  invalid character.

So strict mode accepts exactly the lines that are derived from the grammar as a whole and
whose tree has no fault. -/
theorem evaluate_strict_of_lenient (line : String) :
    (∀ fault, evaluate .lenient line = .error fault → evaluate .strict line = .error fault) ∧
      (∀ n, evaluate .lenient line = .ok n →
        Token.Alternates ((lexemes line.toList).map Lexeme.token) →
          evaluate .strict line = .ok n) ∧
      (∀ n, evaluate .lenient line = .ok n →
        ¬ Token.Alternates ((lexemes line.toList).map Lexeme.token) →
          ∃ front next rest, lexemes line.toList = front ++ next :: rest ∧
            Token.LongestFront ((lexemes line.toList).map Lexeme.token)
              (front.map Lexeme.token) ∧
            evaluate .strict line = .error (.unexpected .endOfLine next.token next.column) ∧
            ((∃ m, next.token = .number m) ∨ next.token = .oversized ∨
              ∃ c, next.token = .invalid c)) ∧
      ∀ n, evaluate .strict line = .ok n ↔
        ∃ formula : Formula, formula.Grammatical ∧
          (lexemes line.toList).map Lexeme.token = formula.spelling ∧
          formula.Sound ∧ formula.value = n := by
  refine ⟨?_, ?_, ?_, ?_⟩
  · intro fault hfault
    exact evaluate_strict_of_lenient_fault hfault
  · intro n hvalue hwhole
    exact evaluate_strict_of_alternates hvalue hwhole
  · intro n hvalue hpart
    exact evaluate_strict_of_not_alternates hvalue hpart
  · intro n
    exact evaluate_strict_eq_ok_iff

end LineCalculator
