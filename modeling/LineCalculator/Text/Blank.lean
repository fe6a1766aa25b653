/-!
# Blanks

Six characters separate the parts of a line and mean nothing themselves.  The
set is fixed: no other Unicode space is a blank.
-/

namespace LineCalculator.Text

/-- The space, the horizontal tabulation, the line feed, the vertical tabulation,
the form feed and the carriage return. -/
def blanks : List Char := [' ', '\t', '\n', '\x0b', '\x0c', '\r']

/-- Decide whether a character is a blank. -/
def isBlank (c : Char) : Bool := blanks.contains c

theorem isBlank_iff_mem {c : Char} : isBlank c = true ↔ c ∈ blanks := by
  simp [isBlank]

/-- A blank is never a digit, so blanks never join a digit run. -/
theorem isDigit_eq_false_of_isBlank {c : Char} (hblank : isBlank c = true) :
    c.isDigit = false := by
  simp only [isBlank_iff_mem, blanks, List.mem_cons, List.not_mem_nil, or_false] at hblank
  rcases hblank with rfl | rfl | rfl | rfl | rfl | rfl <;> decide

/-- A digit is no blank. -/
theorem isBlank_eq_false_of_isDigit {c : Char} (hdigit : c.isDigit = true) : isBlank c = false := by
  cases hblank : isBlank c with
  | false => rfl
  | true =>
      rw [isDigit_eq_false_of_isBlank hblank] at hdigit
      cases hdigit

/-- Blanks are skipped up to a character that is none. -/
theorem isBlank_eq_false_of_dropWhile {text : List Char} {first : Char} {more : List Char}
    (htext : text.dropWhile isBlank = first :: more) : isBlank first = false := by
  have hstops := List.head?_dropWhile_not isBlank text
  simpa [htext] using hstops

end LineCalculator.Text
