import LineCalculator.Proofs.Cutting
import LineCalculator.Scanner

/-!
# Scanning reads the stream

A scanner reads one lexeme at a time from the characters that are left, while the stream
of a line is defined from all of its characters at once.  Reading takes exactly the first
lexeme of the rest and leaves the others; at the end of the line it goes on giving the
end.  So the lexeme that is read after `count` others is entry `count` of the stream.
-/

namespace LineCalculator.Scanner

open Segmentation

/-- The scanner after reading some number of lexemes. -/
def after (s : Scanner) : Nat → Scanner
  | 0 => s
  | count + 1 => s.scan.2.after count

@[simp] theorem after_zero (s : Scanner) : s.after 0 = s := rfl

theorem after_succ (s : Scanner) (count : Nat) : s.after (count + 1) = s.scan.2.after count := rfl

/-- Reading some lexemes and then some more. -/
theorem after_after (s : Scanner) (first more : Nat) :
    (s.after first).after more = s.after (first + more) := by
  induction first generalizing s with
  | zero => rw [Nat.zero_add, after_zero]
  | succ first ih => rw [after_succ, ih, Nat.succ_add, after_succ]

/-- The lexemes that are still to be read, without the end of the line. -/
def ahead (s : Scanner) : List Lexeme := lexemesFrom s.column s.rest

/-- The column of the end of the line. -/
def ending (s : Scanner) : Nat := s.column + s.rest.length

/-- The blanks before a lexeme and the text from its first character on make up the rest. -/
theorem length_blanks_add (s : Scanner) :
    (s.rest.takeWhile Text.isBlank).length + (s.rest.dropWhile Text.isBlank).length =
      s.rest.length := by
  rw [← List.length_append, List.takeWhile_append_dropWhile]

/-- Reading moves on in the line and never changes where the line ends. -/
@[simp] theorem ending_scan (s : Scanner) : s.scan.2.ending = s.ending := by
  have hblanks := s.length_blanks_add
  have hspelling := (firstSpelling_starts (s.rest.dropWhile Text.isBlank)).length_le
  simp only [ending, scan, List.length_drop]
  omega

/-- Where nothing is left but blanks, reading gives the end of the line and leaves nothing. -/
theorem scan_of_blank {s : Scanner} (hrest : s.rest.dropWhile Text.isBlank = []) :
    s.ahead = [] ∧ s.scan.1 = ⟨.endOfLine, s.ending⟩ ∧ s.scan.2.ahead = [] := by
  -- The blanks are all that is left, so they reach up to the end of the line.
  have hblanks := s.length_blanks_add
  rw [hrest, List.length_nil, Nat.add_zero] at hblanks
  refine ⟨?_, ?_, ?_⟩
  · show lexemesFrom s.column s.rest = []
    rw [lexemesFrom_skip, hrest, lexemesFrom_nil]
  · simp [scan, hrest, firstSpelling, Token.ofSpelling, ending, hblanks]
  · simp [ahead, scan, hrest]

/-- Where a lexeme is left, reading gives the first one and leaves the others. -/
theorem scan_of_cons {s : Scanner} {first : Char} {more : List Char}
    (hrest : s.rest.dropWhile Text.isBlank = first :: more) :
    s.ahead = s.scan.1 :: s.scan.2.ahead := by
  have hblank := Text.isBlank_eq_false_of_dropWhile hrest
  rw [ahead, lexemesFrom_skip, hrest, lexemesFrom_cons hblank]
  simp only [ahead, scan, hrest]

/-- Reading gives the first lexeme that is left, and the end where none is left. -/
theorem scan_fst (s : Scanner) : s.scan.1 = s.ahead.headD ⟨.endOfLine, s.ending⟩ := by
  cases hrest : s.rest.dropWhile Text.isBlank with
  | nil =>
      obtain ⟨hahead, hread, -⟩ := scan_of_blank hrest
      rw [hahead, hread]
      rfl
  | cons first more =>
      rw [scan_of_cons hrest]
      rfl

/-- Reading leaves the lexemes behind the first. -/
@[simp] theorem ahead_scan (s : Scanner) : s.scan.2.ahead = s.ahead.tail := by
  cases hrest : s.rest.dropWhile Text.isBlank with
  | nil =>
      obtain ⟨hahead, -, hleft⟩ := scan_of_blank hrest
      rw [hahead, hleft]
      rfl
  | cons first more =>
      rw [scan_of_cons hrest]
      rfl

@[simp] theorem ending_after (s : Scanner) (count : Nat) : (s.after count).ending = s.ending := by
  induction count generalizing s with
  | zero => rfl
  | succ count ih => rw [after_succ, ih, ending_scan]

@[simp] theorem ahead_after (s : Scanner) (count : Nat) :
    (s.after count).ahead = s.ahead.drop count := by
  induction count generalizing s with
  | zero => rfl
  | succ count ih => rw [after_succ, ih, ahead_scan, List.drop_tail]

/-- The lexeme read from a fresh scanner after some others is the entry of the stream with
their number. -/
theorem scan_after_ofString (line : String) (count : Nat) :
    ((ofString line).after count).scan.1 = stream line.toList count := by
  rw [scan_fst, ahead_after, ending_after, List.headD_eq_head?_getD, List.head?_drop]
  simp [stream, ahead, ending, ofString, lexemesFrom_zero]

end LineCalculator.Scanner
