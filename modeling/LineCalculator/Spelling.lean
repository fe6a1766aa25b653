import LineCalculator.Literal
import LineCalculator.Token

/-!
# Spellings

The spelling of a token is the text that it takes up in a line.  Digits cling
together: a spelling that begins with a digit goes on for as long as digits follow,
and every other spelling is a single character.  Only the end of the line takes up
no text.
-/

namespace LineCalculator

/-- The spelling of the first token of some text. -/
def firstSpelling : List Char → List Char
  | [] => []
  | c :: cs => if c.isDigit then c :: cs.takeWhile Char.isDigit else [c]

namespace Token

/-- The token of a digit run. -/
def ofDigits (run : List Char) : Token :=
  match Literal.value? run with
  | some n => .number n
  | none => .oversized

/-- The token of a character that is no digit. -/
def ofSymbol (c : Char) : Token :=
  match Operator.ofSymbol? c with
  | some op => .operator op
  | none => .invalid c

/-- The token that a spelling stands for. -/
def ofSpelling : List Char → Token
  | [] => .endOfLine
  | c :: cs => if c.isDigit then ofDigits (c :: cs) else ofSymbol c

/-- Exactly the end of the line takes up no text. -/
theorem ofSpelling_eq_endOfLine_iff {spelling : List Char} :
    ofSpelling spelling = .endOfLine ↔ spelling = [] := by
  cases spelling with
  | nil => simp [ofSpelling]
  | cons c cs =>
      simp only [ofSpelling, ofDigits, ofSymbol, reduceCtorEq, iff_false]
      split <;> split <;> simp

end Token

/-- The first spelling begins the text. -/
theorem firstSpelling_starts (text : List Char) : firstSpelling text <+: text := by
  cases text with
  | nil => exact List.prefix_rfl
  | cons c cs =>
      rw [firstSpelling]
      split
      · exact List.cons_prefix_cons.2 ⟨rfl, List.takeWhile_prefix _⟩
      · exact ⟨cs, rfl⟩

theorem firstSpelling_eq_nil_iff {text : List Char} : firstSpelling text = [] ↔ text = [] := by
  cases text with
  | nil => simp [firstSpelling]
  | cons c cs =>
      rw [firstSpelling]
      split <;> simp

/-- A spelling and the text behind it make up the whole text. -/
theorem firstSpelling_append_drop (text : List Char) :
    firstSpelling text ++ text.drop (firstSpelling text).length = text :=
  List.prefix_iff_eq_append.1 (firstSpelling_starts text)

end LineCalculator
