import LineCalculator.Fault
import LineCalculator.Spelling
import LineCalculator.Text.Blank

/-!
# Scanner

A scanner stands at a column of a line and holds the characters from there on.  It
gives one lexeme at a time, skipping blanks before it, and at the end of the line
gives the end token as often as it is asked.

On top of that it offers the line as a sequence of acceptable tokens, which is over
at the end of the line or at the first oversized literal.  The scanner remembers
that the sequence is over; reading single lexemes takes no notice of it.
-/

namespace LineCalculator

/-- The unread rest of a line. -/
structure Scanner where
  rest : List Char
  /-- The column of the first unread character. -/
  column : Column
  /-- The column at which the lexeme read last starts. -/
  start : Column
  /-- The sequence of acceptable tokens is over. -/
  finished : Bool
  deriving DecidableEq

namespace Scanner

/-- A scanner at the beginning of a line. -/
def ofString (line : String) : Scanner := ⟨line.toList, 0, 0, false⟩

/-- Read one lexeme: the blanks before it are skipped and its spelling is taken. -/
def scan (s : Scanner) : Lexeme × Scanner :=
  let text := s.rest.dropWhile Text.isBlank
  let spelling := firstSpelling text
  let start := s.column + (s.rest.takeWhile Text.isBlank).length
  (⟨.ofSpelling spelling, start⟩,
    { s with rest := text.drop spelling.length, column := start + spelling.length, start })

/-- Read the next acceptable token, if the sequence is not over. -/
def next? (s : Scanner) : Option (Except Fault Token) × Scanner :=
  if s.finished then (none, s)
  else
    let (lexeme, s') := s.scan
    match lexeme.token with
    | .endOfLine => (none, { s' with finished := true })
    | .oversized =>
        (some (.error (.literalTooLarge lexeme.column)), { s' with finished := true })
    | token => (some (.ok token), s')

theorem scan_rest_length_le (s : Scanner) : s.scan.2.rest.length ≤ s.rest.length := by
  have hblanks := (List.dropWhile_suffix (l := s.rest) Text.isBlank).length_le
  simp only [scan, List.length_drop]
  omega

/-- Reading any lexeme but the end shortens the rest of the line. -/
theorem scan_rest_length_lt {s : Scanner} (hmore : s.scan.1.token ≠ .endOfLine) :
    s.scan.2.rest.length < s.rest.length := by
  have hblanks := (List.dropWhile_suffix (l := s.rest) Text.isBlank).length_le
  have hspelling := List.length_pos_iff.2 (mt Token.ofSpelling_eq_endOfLine_iff.2 hmore)
  have hfits := (firstSpelling_starts (s.rest.dropWhile Text.isBlank)).length_le
  simp only [scan, List.length_drop]
  omega

/-- A token at which the sequence of acceptable tokens is over. -/
def closes : Token → Bool
  | .endOfLine => true
  | .oversized => true
  | _ => false

/-- Read lexemes up to the first that closes the sequence, which is read as well. -/
def gather (s : Scanner) : List Lexeme × Scanner :=
  let lexeme := s.scan.1
  if _hcloses : closes lexeme.token then ([lexeme], s.scan.2)
  else
    let (more, last) := s.scan.2.gather
    (lexeme :: more, last)
termination_by s.rest.length
decreasing_by
  apply scan_rest_length_lt
  intro hend
  exact _hcloses (by rw [hend]; rfl)

/-- The tokens of gathered lexemes, or the fault of the oversized literal that closes them. -/
def accepted : List Lexeme → Except Fault (List Token)
  | [] => .ok []
  | ⟨.endOfLine, _⟩ :: _ => .ok []
  | ⟨.oversized, column⟩ :: _ => .error (.literalTooLarge column)
  | ⟨token, _⟩ :: more => (accepted more).map (token :: ·)

/-- Read the rest of the sequence of acceptable tokens. -/
def collect (s : Scanner) : Except Fault (List Token) × Scanner :=
  if s.finished then (.ok [], s)
  else
    let (lexemes, last) := s.gather
    (accepted lexemes, { last with finished := true })

end Scanner

end LineCalculator
