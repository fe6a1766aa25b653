import LineCalculator.Proofs.Displacement
import LineCalculator.Proofs.Spans

/-!
# Unread text

Evaluation reads one lexeme ahead of what it needs, and the scanner looks at one character more
to see that a digit run is over.  What stands behind that is not read and does not matter: it can
be replaced by any other text, also by one that holds faults of its own.

Where an evaluation stops is said in two ways.  The course stops at an entry of the stream, and
looks at no entry behind it; the state that is left has a scanner, which stands at a column of the
line.  A state is only ever changed by reading on and by logging, so every property that these
two keep holds at the end (`Keeps`).  That the scanner stands right behind the current lexeme is
such a property, and it relates the column to the entry.

Main statement: `evaluate_eq_of_take_eq`.
-/

namespace LineCalculator

open Scanner Segmentation

namespace Evaluation

/-- A property of states that reading on and logging keep. -/
structure Stable (property : Lookahead → Prop) : Prop where
  advance : ∀ ⦃s⦄, property s → property s.advance
  record : ∀ ⦃s⦄ event, property s → property (s.record event)

/-- A computation keeps a property of states, whether or not it succeeds. -/
def Keeps (property : Lookahead → Prop) {α : Type} (x : Evaluation α) : Prop :=
  ∀ ⦃s⦄, property s → property (stateAfter (x.run s))

variable {property : Lookahead → Prop}

theorem Keeps.bind {α β : Type} {x : Evaluation α} {f : α → Evaluation β}
    (hx : Keeps property x) (hf : ∀ a, Keeps property (f a)) : Keeps property (x >>= f) := by
  intro s hs
  have hfirst := hx hs
  rw [EStateM.run_bind]
  cases hrun : x.run s with
  | ok a s' =>
      rw [hrun] at hfirst
      exact hf a hfirst
  | error fault s' =>
      rw [hrun] at hfirst
      exact hfirst

theorem keeps_factor (hstable : Stable property) : Keeps property factor := by
  intro s hs
  rw [run_factor]
  cases s.current.token with
  | number _ => exact hstable.advance hs
  | oversized => exact hstable.advance hs
  | operator _ => exact hs
  | invalid _ => exact hs
  | endOfLine => exact hs

/-- The induction is on what is still ahead, as for the chain itself. -/
theorem Keeps.chain (hstable : Stable property) {operand : Operand}
    (hoperand : Keeps property operand.read) (level : Level) (lhs : Int) :
    Keeps property (Evaluation.chain operand level lhs) := by
  intro s hs
  induction hsize : s.remaining using Nat.strongRecOn generalizing lhs s with
  | _ size ih =>
      subst hsize
      cases hop : s.operator? level with
      | none =>
          rw [run_chain, hop]
          exact hs
      | some op =>
          have hread := hoperand (hstable.advance hs)
          rw [run_chain_of_operator hop]
          cases hrun : operand.read.run s.advance with
          | error fault s' =>
              rw [hrun] at hread
              exact hread
          | ok rhs s' =>
              rw [hrun] at hread
              dsimp only
              cases op.combine lhs rhs s.current.column with
              | error fault => exact hread
              | ok result =>
                  have hlt := remaining_operand_lt operand hop
                  rw [hrun] at hlt
                  exact ih _ hlt result (hstable.record _ hread) rfl

theorem Keeps.joined (hstable : Stable property) {operand : Operand}
    (hoperand : Keeps property operand.read) (level : Level) :
    Keeps property (Evaluation.joined operand level) :=
  hoperand.bind (hoperand.chain hstable level)

theorem keeps_term (hstable : Stable property) : Keeps property term :=
  @Keeps.joined property hstable ⟨factor, advances_factor⟩ (keeps_factor hstable) .product

theorem keeps_expression (hstable : Stable property) : Keeps property expression :=
  @Keeps.joined property hstable ⟨term, advances_joined _ _⟩ (keeps_term hstable) .sum

theorem keeps_total (hstable : Stable property) (mode : Mode) : Keeps property (total mode) := by
  intro s hs
  have hread := keeps_expression hstable hs
  have htotalled := totalled mode s
  generalize (total mode).run s = result at htotalled
  cases htotalled with
  | fault hrun =>
      rw [hrun] at hread
      exact hread
  | lenient hrun =>
      rw [hrun] at hread
      exact hstable.record _ hread
  | strict hrun _ =>
      rw [hrun] at hread
      exact hstable.record _ (hstable.advance hread)
  | leftOver hrun _ =>
      rw [hrun] at hread
      exact hread

end Evaluation

open Evaluation

/-- A state stands over a lexeme of a line: that lexeme is current, and the scanner stands right
behind it. -/
structure Lookahead.Over (line : String) (index : Nat) (s : Lookahead) : Prop where
  current_eq : s.current = stream line.toList index
  scanner_eq : s.scanner = (ofString line).after (index + 1)

theorem over_refill (line : String) (index : Nat) (log : Array Event) :
    (Lookahead.refill ((ofString line).after index) log).Over line index where
  current_eq := scan_after_ofString line index
  scanner_eq := (after_add_one _ index).symm

/-- Reading on leads from one lexeme to the next. -/
theorem stable_over (line : String) : Stable fun s => ∃ index, s.Over line index where
  advance := by
    rintro s ⟨index, -, hscanner⟩
    refine ⟨index + 1, ?_⟩
    rw [Lookahead.advance, hscanner]
    exact over_refill line (index + 1) _
  record := by
    rintro s event ⟨index, hcurrent, hscanner⟩
    exact ⟨index, hcurrent, hscanner⟩

variable {line line' : String} {result : Except Fault Int} {events : List Event} {stop : Nat}

/-- Evaluation stops with the course of the expression, or has read the end of the line once
more. -/
theorem at_finalState (mode : Mode)
    (hcourse : ExpressionCourse (stream line.toList) 0 result events stop) :
    (finalState mode line).At (stream line.toList) stop ∨
      (stream line.toList stop).token = .endOfLine ∧
        (finalState mode line).At (stream line.toList) (stop + 1) := by
  obtain ⟨-, hat⟩ := run_expression_of_course hcourse
  have htotalled := totalled mode (.ofScanner (.ofString line))
  unfold finalState
  generalize (total mode).run (.ofScanner (.ofString line)) = final at htotalled
  cases htotalled with
  | fault hrun =>
      rw [hrun] at hat
      exact .inl hat
  | lenient hrun =>
      rw [hrun] at hat
      exact .inl (hat.record _)
  | @strict _ s' hrun hend =>
      rw [hrun] at hat
      have hstop : s'.At (stream line.toList) stop := hat
      rw [hstop.token_eq] at hend
      exact .inr ⟨hend, hstop.advance.record _⟩
  | leftOver hrun _ =>
      rw [hrun] at hat
      exact .inl hat

/-- If the lexeme that was read last is not the end of the line, neither is the entry at which the
course stops. -/
theorem token_ne_endOfLine_of_finalState {mode : Mode}
    (hcourse : ExpressionCourse (stream line.toList) 0 result events stop)
    (hmore : (finalState mode line).current.token ≠ .endOfLine) :
    (stream line.toList stop).token ≠ .endOfLine := by
  intro hend
  rcases at_finalState mode hcourse with hat | ⟨-, hat⟩
  · rw [hat.token_eq] at hmore
    exact hmore hend
  · rw [hat.token_eq] at hmore
    rw [token_eq_endOfLine_iff] at hend
    exact hmore (token_eq_endOfLine_iff.2 (Nat.le_succ_of_le hend))

/-- The state that is left stands over the entry at which the course stops, unless that is the end
of the line. -/
theorem over_finalState (mode : Mode)
    (hcourse : ExpressionCourse (stream line.toList) 0 result events stop)
    (hmore : (stream line.toList stop).token ≠ .endOfLine) :
    (finalState mode line).Over line stop := by
  have hkept : ∃ index, (finalState mode line).Over line index :=
    keeps_total (stable_over line) mode ⟨0, over_refill line 0 #[]⟩
  obtain ⟨index, hover⟩ := hkept
  rcases at_finalState mode hcourse with hat | ⟨hend, -⟩
  · have hsame : stream line.toList stop = stream line.toList index := by
      rw [← hat.current_eq, hover.current_eq]
    rwa [index_eq_of_stream_eq line hsame hmore]
  · exact absurd hend hmore

/-- Evaluation looks at no entry behind the one at which its course stops. -/
theorem evaluate_eq_of_stream_eq (mode : Mode) (hline : line ≠ "") (hline' : line' ≠ "")
    (hcourse : ExpressionCourse (stream line.toList) 0 result events stop)
    (hstream : ∀ index ≤ stop, stream line'.toList index = stream line.toList index) :
    evaluate mode line' = evaluate mode line := by
  have hdisplaced : ∀ index ≤ stop,
      (stream line.toList index).Displaced Eq (stream line'.toList index) := by
    intro index hle
    rw [hstream index hle]
    exact ⟨rfl, rfl⟩
  exact (displaced_evaluate_of_course hline hline' hcourse hdisplaced mode).eq

/-- A lexeme of which the last character is a digit is a digit run. -/
theorem category_of_getLast?_spelling {s : Scanner} {last : Char}
    (hlast : last ∈ s.spelling.getLast?) (hdigit : last.isDigit = true) :
    s.scan.1.token.category = .number := by
  show (Token.ofSpelling s.spelling).category = .number
  unfold spelling at hlast ⊢
  cases hrest : s.rest.dropWhile Text.isBlank with
  | nil =>
      rw [hrest] at hlast
      cases hlast
  | cons first more =>
      rw [hrest, firstSpelling] at hlast
      rw [firstSpelling]
      split at hlast
      · next hfirst =>
          rw [if_pos hfirst, Token.ofSpelling, if_pos hfirst, ofDigits_eq_numeral, numeral]
          split <;> rfl
      · next hfirst =>
          -- The lexeme is this one character.
          obtain rfl : first = last := by simpa using hlast
          exact absurd hdigit hfirst

/-- The text that has been read with a lexeme: its lexemes are the ones up to there, and if a
digit is its last character, that lexeme is a digit run. -/
structure ReadWith (line : String) (index : Nat) (text : List Char) : Prop where
  stands : ((ofString line).after (index + 1)).StandsBehind line.toList text
  index_lt : index < (lexemes text).length
  category_eq : ∀ last ∈ text.getLast?, last.isDigit = true →
    (stream line.toList index).token.category = .number

theorem exists_readWith {index : Nat} (hmore : (stream line.toList index).token ≠ .endOfLine) :
    ∃ text, ReadWith line index text := by
  have hindex : index < (lexemes line.toList).length := by
    rw [Ne, token_eq_endOfLine_iff] at hmore
    omega
  obtain ⟨before, hbefore⟩ := exists_standsBehind line index
  have hstands := hbefore.scan
  have hnonempty : ((ofString line).after index).spelling ≠ [] := by
    intro hempty
    rw [← scan_after_ofString] at hmore
    exact hmore (Token.ofSpelling_eq_endOfLine_iff.2 hempty)
  rw [← after_add_one] at hstands
  refine ⟨_, hstands, ?_, ?_⟩
  · -- The scanner has the lexemes behind this one ahead, so the text has the others.
    have hlength := congrArg List.length hstands.lexemes_eq
    rw [ahead_after_ofString, following, List.length_append, List.length_drop] at hlength
    omega
  · intro last hlast hdigit
    rw [List.getLast?_append_of_ne_nil _ hnonempty] at hlast
    rw [← scan_after_ofString]
    exact category_of_getLast?_spelling hlast hdigit

/-- In front of a place that is not inside a digit run, a line reads as the text there does. -/
theorem stream_append_of_lt {front : List Char} (rest : List Char) {index : Nat}
    (hapart : Apart front rest) (hindex : index < (lexemes front).length) :
    stream (front ++ rest) index = (lexemes front)[index] := by
  rw [stream, lexemes_append hapart, List.getElem?_append_left hindex,
    List.getElem?_eq_getElem hindex]
  rfl

/-- Unread text does not matter.  If the lexeme that has been read last is not the end of the
line, the text behind the place of the scanner can be replaced by any other text; only no digit
may come next if that lexeme is a digit run.  The line keeps its value, or its fault with the same
column. -/
theorem evaluate_eq_of_take_eq (mode : Mode) (line line' : String)
    (hmore : (finalState mode line).current.token ≠ .endOfLine)
    (htake : line'.toList.take (finalState mode line).scanner.column =
      line.toList.take (finalState mode line).scanner.column)
    (hdigit : (finalState mode line).current.token.category = .number →
      ∀ c ∈ line'.toList[(finalState mode line).scanner.column]?, c.isDigit = false) :
    evaluate mode line' = evaluate mode line := by
  obtain ⟨result, events, stop, hcourse⟩ := exists_course line
  have hstop := token_ne_endOfLine_of_finalState hcourse hmore
  have hover := over_finalState mode hcourse hstop
  obtain ⟨text, hstands, hindex, hcategory⟩ := exists_readWith hstop
  rw [hover.scanner_eq, ← hstands.length_eq] at htake hdigit
  rw [hover.current_eq] at hdigit
  -- Both lines begin with the text that has been read, and do not go on with a digit run.
  have hline : line.toList = text ++ ((ofString line).after (stop + 1)).rest := hstands.line_eq
  have hline' : line'.toList = text ++ line'.toList.drop text.length := by
    have hfront : line'.toList.take text.length = text := by
      rw [htake, hline, List.take_left]
    conv => lhs; rw [← List.take_append_drop text.length line'.toList, hfront]
  have hapart' : Apart text (line'.toList.drop text.length) := by
    intro last hlast first hfirst
    rw [List.head?_drop] at hfirst
    cases hlastDigit : last.isDigit with
    | false => rfl
    | true => exact hdigit (hcategory last hlast hlastDigit) first hfirst
  have hstream : ∀ index ≤ stop, stream line'.toList index = stream line.toList index := by
    intro index hle
    have hlt := Nat.lt_of_le_of_lt hle hindex
    rw [hline', hline, stream_append_of_lt _ hapart' hlt, stream_append_of_lt _ hstands.apart hlt]
  refine evaluate_eq_of_stream_eq mode ?_ ?_ hcourse hstream
  · rintro rfl
    exact hstop rfl
  · rintro rfl
    rw [← hstream stop (Nat.le_refl stop)] at hstop
    exact hstop rfl

/-- A number that is left over in strict mode.  Behind it, where nothing has been read, a literal
that is too large and an unexpected letter can stand. -/
theorem evaluate_eq_of_take_eq_leftOver :
    ((finalState .strict "7 + 8 9").current.token ≠ .endOfLine ∧
      (finalState .strict "7 + 8 9").scanner.column = 7 ∧
      "7 + 8 9 99999999999999999999 /x".toList.take 7 = "7 + 8 9".toList.take 7 ∧
      ((finalState .strict "7 + 8 9").current.token.category = .number →
        ∀ c ∈ "7 + 8 9 99999999999999999999 /x".toList[7]?, c.isDigit = false)) ∧
      evaluate .strict "7 + 8 9 99999999999999999999 /x" = evaluate .strict "7 + 8 9" := by
  have hgrammatical : (Formula.combined .add (.number 7) (.number 8)).Grammatical :=
    .combined rfl (.term (.number 7)) (.number 8)
  have hwritten : (Formula.combined .add (.number 7) (.number 8)).WrittenBy
      (stream "7 + 8 9".toList) 0 3 :=
    ⟨1, ⟨by decide, rfl⟩, by decide, ⟨by decide, rfl⟩⟩
  have hstop : stream "7 + 8 9".toList 3 = ⟨.number 9, 6⟩ := by decide
  have hoperator : ∀ op, (stream "7 + 8 9".toList 3).token ≠ .operator op := by
    intro op
    rw [hstop]
    exact Token.noConfusion
  obtain ⟨events, hcourse⟩ :=
    exists_expressionCourse hgrammatical hwritten (by decide) hoperator
  have hover := over_finalState .strict hcourse (by decide)
  have hmore : (finalState .strict "7 + 8 9").current.token ≠ .endOfLine := by
    rw [hover.current_eq]
    decide
  have hcolumn : (finalState .strict "7 + 8 9").scanner.column = 7 := by
    rw [hover.scanner_eq]
    decide
  have htake : "7 + 8 9 99999999999999999999 /x".toList.take 7 = "7 + 8 9".toList.take 7 := by
    decide
  have hdigit : ∀ c ∈ "7 + 8 9 99999999999999999999 /x".toList[7]?, c.isDigit = false := by
    rintro c ⟨⟩
    rfl
  refine ⟨⟨hmore, hcolumn, htake, fun _ => hdigit⟩, ?_⟩
  apply evaluate_eq_of_take_eq .strict "7 + 8 9" _ hmore
  · rw [hcolumn]
    exact htake
  · rw [hcolumn]
    exact fun _ => hdigit

end LineCalculator
