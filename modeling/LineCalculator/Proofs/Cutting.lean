import LineCalculator.Proofs.DigitRuns
import LineCalculator.Segmentation
import Mathlib.Data.List.SplitBy

/-!
# Cutting the rest of a line

A line is segmented as a whole: it is cut between any two neighbours that are not both
digits.  To compare that with reading from the left, this file shows how the lexemes of
the rest of a line begin: blanks at its front add nothing, and the first spelling behind
them is exactly one lexeme.

Both facts come from one: the lexemes of two texts side by side are those of the first
and then those of the second, wherever the two do not touch inside a digit run.
-/

namespace LineCalculator.Segmentation

/-- The lexemes of the rest of a line, of which the first character stands at `column`. -/
def lexemesFrom (column : Column) (text : List Char) : List Lexeme :=
  ((text.zipIdx column).splitBy fun before after =>
    before.1.isDigit && after.1.isDigit).filterMap lexeme?

theorem lexemesFrom_zero (line : List Char) : lexemesFrom 0 line = lexemes line := rfl

@[simp] theorem lexemesFrom_nil (column : Column) : lexemesFrom column [] = [] := rfl

/-- Two texts do not touch inside a digit run: it is not the case that the first one ends in
a digit and the second one begins with a digit. -/
def Apart (front back : List Char) : Prop :=
  ∀ last ∈ front.getLast?, ∀ first ∈ back.head?, (last.isDigit && first.isDigit) = false

instance (front back : List Char) : Decidable (Apart front back) :=
  have (last : Char) : Decidable (∀ first ∈ back.head?, (last.isDigit && first.isDigit) = false) :=
    Option.decidableForallMem _
  Option.decidableForallMem _

theorem apart_of_getLast? {front : List Char} (back : List Char)
    (hlast : ∀ last ∈ front.getLast?, last.isDigit = false) : Apart front back := by
  intro last hmem first _
  rw [hlast last hmem, Bool.false_and]

theorem apart_of_head? (front : List Char) {back : List Char}
    (hfirst : ∀ first ∈ back.head?, first.isDigit = false) : Apart front back := by
  intro last _ first hmem
  rw [hfirst first hmem, Bool.and_false]

/-- Blanks in between keep two texts apart. -/
theorem Apart.blanks_append {front blanks back : List Char} (hapart : Apart front back)
    (hblanks : ∀ c ∈ blanks, Text.isBlank c = true) : Apart front (blanks ++ back) := by
  cases blanks with
  | nil => exact hapart
  | cons c more =>
      apply apart_of_head?
      intro first hfirst
      obtain rfl : c = first := by simpa using hfirst
      exact Text.isDigit_eq_false_of_isBlank (hblanks c List.mem_cons_self)

/-- Two texts that do not touch inside a digit run have their lexemes side by side. -/
theorem lexemesFrom_append {column : Column} {front back : List Char}
    (hapart : Apart front back) :
    lexemesFrom column (front ++ back) =
      lexemesFrom column front ++ lexemesFrom (column + front.length) back := by
  unfold lexemesFrom
  rw [List.zipIdx_append, List.splitBy_append, List.filterMap_append]
  -- The neighbours at the border, each with its column.
  intro last hlast first hfirst
  rw [List.getLast?_zipIdx, Option.mem_def, Option.map_eq_some_iff] at hlast
  rw [List.head?_zipIdx, Option.mem_def, Option.map_eq_some_iff] at hfirst
  obtain ⟨lastChar, hlastChar, rfl⟩ := hlast
  obtain ⟨firstChar, hfirstChar, rfl⟩ := hfirst
  exact hapart lastChar hlastChar firstChar hfirstChar

theorem lexemes_append {front back : List Char} (hapart : Apart front back) :
    lexemes (front ++ back) = lexemes front ++ lexemesFrom front.length back := by
  rw [← lexemesFrom_zero, lexemesFrom_append hapart, lexemesFrom_zero, Nat.zero_add]

/-- Blanks hold no lexeme. -/
theorem lexemesFrom_eq_nil_of_blank (text : List Char) (column : Column)
    (hblank : ∀ c ∈ text, Text.isBlank c = true) : lexemesFrom column text = [] := by
  induction text generalizing column with
  | nil => rfl
  | cons c cs ih =>
      have hfirst : Text.isBlank c = true := hblank c List.mem_cons_self
      have hone : lexemesFrom column [c] = [] := by
        simp [lexemesFrom, List.zipIdx_cons, List.splitBy, List.splitBy.loop, lexeme?, hfirst]
      have hsplit : lexemesFrom column ([c] ++ cs) =
          lexemesFrom column [c] ++ lexemesFrom (column + [c].length) cs := by
        apply lexemesFrom_append
        apply apart_of_getLast?
        intro last hlast
        obtain rfl : c = last := by simpa using hlast
        exact Text.isDigit_eq_false_of_isBlank hfirst
      rw [List.singleton_append] at hsplit
      rw [hsplit, hone, List.nil_append]
      exact ih _ fun d hd => hblank d (List.mem_cons_of_mem c hd)

/-- Both ways of reading a digit run, by accumulating and by its full value, agree. -/
theorem ofDigits_eq_numeral (run : List Char) : Token.ofDigits run = numeral run := by
  unfold Token.ofDigits numeral
  rw [Literal.value?_eq]
  by_cases hfits : (Decimal.value run : Int) ≤ greatestInteger
  · rw [if_pos hfits, if_pos hfits]
  · rw [if_neg hfits, if_neg hfits]

/-- Both ways of naming the token of a spelling agree. -/
theorem ofSpelling_cons (first : Char) (more : List Char) :
    Token.ofSpelling (first :: more) = token first more := by
  rw [Token.ofSpelling, token, ofDigits_eq_numeral, Token.ofSymbol]
  cases Operator.ofSymbol? first <;> rfl

/-- A digit run is one piece. -/
theorem splitBy_of_isDigit {run : List Char} {column : Column} (hrun : run ≠ [])
    (hdigits : ∀ c ∈ run, c.isDigit = true) :
    (run.zipIdx column).splitBy (fun before after => before.1.isDigit && after.1.isDigit) =
      [run.zipIdx column] := by
  apply List.splitBy_of_isChain
  · simpa using hrun
  · have hall : ∀ entry ∈ run.zipIdx column, entry.1.isDigit = true := by
      intro entry hentry
      exact hdigits _ (List.fst_mem_of_mem_zipIdx hentry)
    refine (List.pairwise_of_forall_mem_list ?_).isChain
    intro before hbefore after hafter
    rw [hall before hbefore, hall after hafter]
    rfl

theorem lexemesFrom_of_isDigit {first : Char} {more : List Char} (column : Column)
    (hdigits : ∀ c ∈ first :: more, c.isDigit = true) (hblank : Text.isBlank first = false) :
    lexemesFrom column (first :: more) = [⟨token first more, column⟩] := by
  unfold lexemesFrom
  rw [splitBy_of_isDigit (List.cons_ne_nil _ _) hdigits]
  simp [List.zipIdx_cons, lexeme?, hblank]

/-- A digit run is one lexeme. -/
theorem lexemesFrom_run {run : List Char} (hnonempty : run ≠ [])
    (hdigits : ∀ c ∈ run, c.isDigit = true) (column : Column) :
    lexemesFrom column run = [⟨numeral run, column⟩] := by
  cases run with
  | nil => exact absurd rfl hnonempty
  | cons first more =>
      have hfirst := hdigits first List.mem_cons_self
      rw [lexemesFrom_of_isDigit column hdigits (Text.isBlank_eq_false_of_isDigit hfirst), token,
        if_pos hfirst]

/-- The digits of a number that fits are one lexeme, that number. -/
theorem lexemesFrom_digits {n : Nat} (hfits : (n : Int) ≤ greatestInteger) (column : Column) :
    lexemesFrom column (Decimal.digits n) = [⟨.number n, column⟩] := by
  have hdigits : ∀ c ∈ Decimal.digits n, c.isDigit = true :=
    fun c hc => Decimal.isDigit_of_mem_digits hc
  rw [lexemesFrom_run (Decimal.digits_ne_nil n) hdigits, numeral, Decimal.value_digits,
    if_pos hfits]

theorem lexemesFrom_singleton {c : Char} (column : Column) (hblank : Text.isBlank c = false) :
    lexemesFrom column [c] = [⟨token c [], column⟩] := by
  simp [lexemesFrom, List.zipIdx_cons, List.splitBy, List.splitBy.loop, lexeme?, hblank]

/-- The symbol of an operator is neither a blank nor a digit. -/
theorem isBlank_symbol (op : Operator) : Text.isBlank op.symbol = false := by
  cases op <;> rfl

theorem isDigit_symbol (op : Operator) : op.symbol.isDigit = false := by
  cases op <;> rfl

/-- The symbol of an operator in front of some text is a lexeme of its own. -/
theorem lexemesFrom_symbol_cons (op : Operator) (column : Column) (text : List Char) :
    lexemesFrom column (op.symbol :: text) =
      ⟨.operator op, column⟩ :: lexemesFrom (column + 1) text := by
  have hapart : Apart [op.symbol] text := by
    apply apart_of_getLast?
    intro last hlast
    obtain rfl : op.symbol = last := by simpa using hlast
    exact isDigit_symbol op
  have htoken : token op.symbol [] = .operator op := by
    rw [token, isDigit_symbol, Operator.ofSymbol?_symbol]
    rfl
  rw [← List.singleton_append, lexemesFrom_append hapart, lexemesFrom_singleton column
    (isBlank_symbol op), htoken]
  rfl

/-- A first spelling that is no blank is exactly one lexeme. -/
theorem lexemesFrom_firstSpelling {first : Char} {more : List Char}
    (hblank : Text.isBlank first = false) (column : Column) :
    lexemesFrom column (firstSpelling (first :: more)) =
      [⟨Token.ofSpelling (firstSpelling (first :: more)), column⟩] := by
  rw [firstSpelling]
  split
  · next hdigit =>
      rw [ofSpelling_cons]
      exact lexemesFrom_of_isDigit _ (Text.isDigit_of_mem_run hdigit more) hblank
  · rw [ofSpelling_cons]
    exact lexemesFrom_singleton column hblank

/-- A first spelling goes on for as long as digits follow, so it does not touch the text
behind it inside a digit run. -/
theorem firstSpelling_apart (first : Char) (more : List Char) :
    Apart (firstSpelling (first :: more))
      ((first :: more).drop (firstSpelling (first :: more)).length) := by
  intro last hlast next hnext
  rw [firstSpelling] at hlast hnext
  split at hlast
  · next hdigit =>
      -- Behind a digit run stands what is left once all its digits are dropped.
      have hrest : (first :: more).drop (first :: more.takeWhile Char.isDigit).length =
          more.dropWhile Char.isDigit := by
        have htaken := List.prefix_iff_eq_append.1
          (List.takeWhile_prefix (l := more) Char.isDigit)
        exact List.append_cancel_left (htaken.trans List.takeWhile_append_dropWhile.symm)
      rw [if_pos hdigit, hrest] at hnext
      rw [Text.eq_false_of_head?_dropWhile Char.isDigit more next hnext, Bool.and_false]
  · next hdigit =>
      -- A single character that is no digit touches nothing.
      obtain rfl : first = last := by simpa using hlast
      simp [hdigit]

/-- Behind its blanks, the rest of a line is a first lexeme and the lexemes behind it. -/
theorem lexemesFrom_cons {first : Char} {more : List Char}
    (hblank : Text.isBlank first = false) (column : Column) :
    lexemesFrom column (first :: more) =
      ⟨Token.ofSpelling (firstSpelling (first :: more)), column⟩ ::
        lexemesFrom (column + (firstSpelling (first :: more)).length)
          ((first :: more).drop (firstSpelling (first :: more)).length) := by
  calc
    lexemesFrom column (first :: more)
      = lexemesFrom column (firstSpelling (first :: more) ++
          (first :: more).drop (firstSpelling (first :: more)).length) := by
        rw [firstSpelling_append_drop]
    _ = lexemesFrom column (firstSpelling (first :: more)) ++
          lexemesFrom (column + (firstSpelling (first :: more)).length)
            ((first :: more).drop (firstSpelling (first :: more)).length) :=
        lexemesFrom_append (firstSpelling_apart first more)
    _ = _ := by
        rw [lexemesFrom_firstSpelling hblank, List.singleton_append]

/-- Blanks in front of some text only move its lexemes. -/
theorem lexemesFrom_blanks_append {blanks : List Char}
    (hblanks : ∀ c ∈ blanks, Text.isBlank c = true) (column : Column) (text : List Char) :
    lexemesFrom column (blanks ++ text) = lexemesFrom (column + blanks.length) text := by
  have hapart : Apart blanks text := by
    apply apart_of_getLast?
    intro last hlast
    exact Text.isDigit_eq_false_of_isBlank (hblanks last (List.mem_of_getLast? hlast))
  rw [lexemesFrom_append hapart, lexemesFrom_eq_nil_of_blank _ _ hblanks, List.nil_append]

/-- Blanks at the front of the rest of a line only move its lexemes. -/
theorem lexemesFrom_skip (column : Column) (text : List Char) :
    lexemesFrom column text =
      lexemesFrom (column + (text.takeWhile Text.isBlank).length)
        (text.dropWhile Text.isBlank) := by
  have hblanks : ∀ c ∈ text.takeWhile Text.isBlank, Text.isBlank c = true :=
    List.all_eq_true.1 List.all_takeWhile
  calc
    lexemesFrom column text
      = lexemesFrom column (text.takeWhile Text.isBlank ++ text.dropWhile Text.isBlank) := by
        rw [List.takeWhile_append_dropWhile]
    _ = _ := lexemesFrom_blanks_append hblanks column _

end LineCalculator.Segmentation
