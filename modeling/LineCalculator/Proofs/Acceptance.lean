import LineCalculator.Line
import LineCalculator.Proofs.Scanning

/-!
# The acceptable tokens of a line

The tokens of a line are gathered by a scanner, up to the first lexeme that closes the
sequence: the end of the line or an oversized literal.  This file says the same without a
scanner.  The lexemes behind the one that closes the sequence do not matter, so all
lexemes of the line can be asked for their tokens (`tokenize_of_ne`).
-/

namespace LineCalculator

namespace Scanner

variable {s : Scanner}

/-- A token closes the sequence of acceptable tokens in one of two ways. -/
theorem closes_cases (token : Token) :
    token = .endOfLine ∨ token = .oversized ∨ closes token = false := by
  cases token <;> simp [closes]

theorem gather_of_closes (hcloses : closes s.scan.1.token = true) :
    s.gather = ([s.scan.1], s.scan.2) := by
  rw [gather, dif_pos hcloses]

theorem gather_of_not_closes (hcloses : closes s.scan.1.token = false) :
    s.gather = (s.scan.1 :: s.scan.2.gather.1, s.scan.2.gather.2) := by
  rw [gather, dif_neg (by simp [hcloses])]

/-- A lexeme that does not close the sequence is accepted. -/
theorem accepted_of_not_closes {lexeme : Lexeme} (hcloses : closes lexeme.token = false)
    (more : List Lexeme) :
    accepted (lexeme :: more) = (accepted more).map (lexeme.token :: ·) := by
  obtain ⟨token, column⟩ := lexeme
  cases token with
  | number n => rfl
  | operator op => rfl
  | invalid c => rfl
  | oversized => cases hcloses
  | endOfLine => cases hcloses

/-- Nothing behind a lexeme that closes the sequence is asked for. -/
theorem accepted_of_closes {lexeme : Lexeme} (hcloses : closes lexeme.token = true)
    (more : List Lexeme) : accepted (lexeme :: more) = accepted [lexeme] := by
  obtain ⟨token, column⟩ := lexeme
  cases token with
  | number n => cases hcloses
  | operator op => cases hcloses
  | invalid c => cases hcloses
  | oversized => rfl
  | endOfLine => rfl

/-- The only fault of some lexemes is that the first one to close their sequence is an oversized
literal. -/
theorem accepted_eq_error_iff {read : List Lexeme} {fault : Fault} :
    accepted read = .error fault ↔
      ∃ column, read.find? (fun lexeme => closes lexeme.token) = some ⟨.oversized, column⟩ ∧
        fault = .literalTooLarge column := by
  induction read with
  | nil => simp [accepted]
  | cons lexeme more ih =>
      obtain ⟨token, column⟩ := lexeme
      rcases closes_cases token with rfl | rfl | htoken
      · simp [accepted, closes]
      · simp [accepted, closes, eq_comm]
      · rw [accepted_of_not_closes htoken, List.find?_cons_of_neg (by simp [htoken]), ← ih]
        cases accepted more <;> simp [Except.map]

/-- The gathered lexemes give the same tokens as all lexemes that are left.  The induction
is on the text that is left. -/
theorem accepted_gather (s : Scanner) : accepted s.gather.1 = accepted s.ahead := by
  induction hsize : s.rest.length using Nat.strongRecOn generalizing s with
  | _ size ih =>
      subst hsize
      cases hrest : s.rest.dropWhile Text.isBlank with
      | nil =>
          obtain ⟨hahead, hread, -⟩ := scan_of_blank hrest
          have hcloses : closes s.scan.1.token = true := by rw [hread]; rfl
          rw [gather_of_closes hcloses, hahead, hread]
          rfl
      | cons first more =>
          rw [scan_of_cons hrest]
          cases hcloses : closes s.scan.1.token with
          | true => rw [gather_of_closes hcloses, accepted_of_closes hcloses s.scan.2.ahead]
          | false =>
              have hmore : s.scan.1.token ≠ .endOfLine := by
                intro hend
                rw [hend] at hcloses
                cases hcloses
              rw [gather_of_not_closes hcloses, accepted_of_not_closes hcloses,
                accepted_of_not_closes hcloses, ih _ (scan_rest_length_lt hmore) _ rfl]

end Scanner

open Scanner Segmentation

/-- The tokens of a line are those of its lexemes, up to the first oversized literal. -/
theorem tokenize_of_ne {line : String} (hline : line ≠ "") :
    tokenize line = accepted (lexemes line.toList) := by
  unfold tokenize tokenizeWithEvents
  rw [if_neg hline]
  exact accepted_gather (ofString line)

end LineCalculator
