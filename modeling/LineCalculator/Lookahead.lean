import LineCalculator.Event
import LineCalculator.Scanner

/-!
# Lookahead

Evaluation decides how to go on from a single lexeme that is read ahead of it.  The
state is that lexeme, the scanner behind it and the events so far.  Nothing is ever
read twice.
-/

namespace LineCalculator

/-- A scanner with one lexeme read ahead, and the log of the run. -/
structure Lookahead where
  scanner : Scanner
  current : Lexeme
  log : Array Event

namespace Lookahead

/-- Read one lexeme ahead of a scanner and log it. -/
def refill (scanner : Scanner) (log : Array Event) : Lookahead :=
  let (lexeme, scanner) := scanner.scan
  { scanner, current := lexeme, log := log.push (.scanned lexeme) }

/-- Take over a scanner with an empty log. -/
def ofScanner (scanner : Scanner) : Lookahead := refill scanner #[]

/-- Leave the current lexeme behind and read the next one. -/
def advance (s : Lookahead) : Lookahead := refill s.scanner s.log

/-- Add an event to the log. -/
def record (event : Event) (s : Lookahead) : Lookahead := { s with log := s.log.push event }

/-- The current token, if it is an operator that binds at the given level. -/
def operator? (level : Level) (s : Lookahead) : Option Operator :=
  match s.current.token with
  | .operator op => if op.level = level then some op else none
  | _ => none

/-- A bound on the lexemes still ahead: the unread characters, and one more unless the
current token is the end of the line. -/
def remaining (s : Lookahead) : Nat :=
  s.scanner.rest.length + if s.current.token = .endOfLine then 0 else 1

theorem operator?_eq_some_iff {s : Lookahead} {level : Level} {op : Operator} :
    s.operator? level = some op ↔ s.current.token = .operator op ∧ op.level = level := by
  unfold operator?
  cases s.current.token with
  | operator found =>
      by_cases hlevel : found.level = level
      · simp only [hlevel, if_true, Option.some.injEq, Token.operator.injEq]
        exact ⟨fun h => ⟨h, h ▸ hlevel⟩, fun h => h.1⟩
      · simp only [hlevel, if_false, reduceCtorEq, Token.operator.injEq, false_iff]
        rintro ⟨rfl, h⟩
        exact hlevel h
  | number _ => simp
  | invalid _ => simp
  | oversized => simp
  | endOfLine => simp

theorem remaining_refill_le (scanner : Scanner) (log : Array Event) :
    (refill scanner log).remaining ≤ scanner.rest.length := by
  -- The end adds nothing, and any other lexeme has taken a character for the one it adds.
  show scanner.scan.2.rest.length + _ ≤ _
  split
  · exact scanner.scan_rest_length_le
  · exact Scanner.scan_rest_length_lt (by assumption)

theorem remaining_advance_le (s : Lookahead) : s.advance.remaining ≤ s.remaining :=
  Nat.le_trans (remaining_refill_le _ _) (Nat.le_add_right _ _)

/-- Leaving any token but the end behind brings the end nearer. -/
theorem remaining_advance_lt {s : Lookahead} (hmore : s.current.token ≠ .endOfLine) :
    s.advance.remaining < s.remaining := by
  have hle := remaining_refill_le s.scanner s.log
  simp only [remaining, hmore, if_false]
  exact Nat.lt_succ_of_le hle

@[simp] theorem remaining_record (event : Event) (s : Lookahead) :
    (s.record event).remaining = s.remaining := rfl

end Lookahead

end LineCalculator
