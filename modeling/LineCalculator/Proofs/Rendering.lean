import LineCalculator.Proofs.Acceptance

/-!
# Rendering

Tokens can be put down in a line in many ways: a number with any zeros in front of its digits,
and any blanks around each token.  Only two numbers need a blank in between.  Whatever way is
chosen, the line is read back as the same tokens, each at the column where it has been put.

The invariant of the induction is on the lexemes of the rest of a line, for any column at which
that rest begins: what has been put down first does not touch the rest inside a digit run.

Main statement: `tokenize_rendered`.
-/

namespace LineCalculator

open Scanner Segmentation

/-- The texts that write a token.  The end of a line and an oversized literal are written by
none, and neither is a character that means something else. -/
inductive Token.WrittenAs : Token → List Char → Prop
  | number (zeros : Nat) {n : Nat} (hfits : (n : Int) ≤ greatestInteger) :
      WrittenAs (.number n) (List.replicate zeros '0' ++ Decimal.digits n)
  | operator (op : Operator) : WrittenAs (.operator op) [op.symbol]
  | invalid {c : Char} (hblank : Text.isBlank c = false) (hdigit : c.isDigit = false)
      (hoperator : ∀ op : Operator, c ≠ op.symbol) : WrittenAs (.invalid c) [c]

namespace Token

variable {token : Token} {text : List Char}

/-- The digits of a number, with the zeros in front of them. -/
theorem isDigit_of_mem_zeros_append {zeros n : Nat} {c : Char}
    (hmem : c ∈ List.replicate zeros '0' ++ Decimal.digits n) : c.isDigit = true := by
  rcases List.mem_append.1 hmem with hzero | hdigit
  · rw [List.eq_of_mem_replicate hzero]
    rfl
  · exact Decimal.isDigit_of_mem_digits hdigit

/-- Zeros in front of a number do not change it. -/
theorem numeral_zeros_append (zeros : Nat) {n : Nat} (hfits : (n : Int) ≤ greatestInteger) :
    numeral (List.replicate zeros '0' ++ Decimal.digits n) = .number n := by
  have hvalue : Decimal.value (List.replicate zeros '0' ++ Decimal.digits n) = n := by
    rw [Decimal.value, Nat.ofDigitChars_append, Nat.ofDigitChars_replicate_zero, Nat.mul_zero]
    exact Decimal.value_digits n
  rw [numeral, hvalue, if_pos hfits]

/-- A text that writes a token is exactly one lexeme. -/
theorem WrittenAs.lexemesFrom_eq (hwritten : token.WrittenAs text) (column : Column) :
    lexemesFrom column text = [⟨token, column⟩] := by
  cases hwritten with
  | @number zeros n hfits =>
      have hnonempty : List.replicate zeros '0' ++ Decimal.digits n ≠ [] :=
        List.append_ne_nil_of_right_ne_nil _ (Decimal.digits_ne_nil n)
      rw [lexemesFrom_run hnonempty fun c hc => isDigit_of_mem_zeros_append hc,
        numeral_zeros_append zeros hfits]
  | operator op => exact lexemesFrom_symbol_cons op column []
  | @invalid c hblank hdigit hoperator =>
      have htoken : Segmentation.token c [] = .invalid c := by
        cases hop : Operator.ofSymbol? c with
        | some op => exact absurd (Operator.ofSymbol?_eq_some_iff.1 hop) (hoperator op)
        | none =>
            rw [Segmentation.token, hdigit, hop]
            rfl
      rw [lexemesFrom_singleton column hblank, htoken]

/-- A token that can be written does not close the sequence of acceptable tokens. -/
theorem WrittenAs.closes_eq_false (hwritten : token.WrittenAs text) : closes token = false := by
  cases hwritten <;> rfl

/-- Only a number is written with digits. -/
theorem WrittenAs.isDigit_eq_false (hwritten : token.WrittenAs text)
    (hcategory : token.category ≠ .number) {c : Char} (hmem : c ∈ text) : c.isDigit = false := by
  cases hwritten with
  | number _ _ => exact absurd rfl hcategory
  | operator op =>
      obtain rfl := List.mem_singleton.1 hmem
      exact isDigit_symbol op
  | invalid _ hdigit _ =>
      obtain rfl := List.mem_singleton.1 hmem
      exact hdigit

end Token

/-- A token as it is put down in a line. -/
structure Inscription where
  /-- The blanks in front of the token. -/
  gap : List Char
  token : Token
  /-- The text that writes the token. -/
  text : List Char
  blank : ∀ c ∈ gap, Text.isBlank c = true
  written : token.WrittenAs text

namespace Inscription

/-- Two tokens next to each other have a blank in between if both are numbers. -/
def Parted (before behind : Inscription) : Prop :=
  before.token.category = .number → behind.token.category = .number → behind.gap ≠ []

/-- The text that some tokens take up. -/
def rendered (pieces : List Inscription) : List Char :=
  pieces.flatMap fun piece => piece.gap ++ piece.text

/-- The lexemes of tokens that are put down from a column on. -/
def lexemes : Column → List Inscription → List Lexeme
  | _, [] => []
  | column, piece :: more =>
      ⟨piece.token, column + piece.gap.length⟩ ::
        lexemes (column + piece.gap.length + piece.text.length) more

variable {piece : Inscription} {pieces : List Inscription} {trailing : List Char}

theorem rendered_cons_append (piece : Inscription) (more : List Inscription)
    (trailing : List Char) :
    rendered (piece :: more) ++ trailing =
      piece.gap ++ (piece.text ++ (rendered more ++ trailing)) := by
  simp [rendered]

/-- A number and the text behind it do not touch inside a digit run. -/
theorem Parted.apart {next : Inscription} (hparted : piece.Parted next) (rest : List Char) :
    Apart piece.text (next.gap ++ (next.text ++ rest)) := by
  by_cases hnumber : piece.token.category = .number
  · by_cases hnext : next.token.category = .number
    · -- Between two numbers there is a blank.
      cases hgap : next.gap with
      | nil => exact absurd hgap (hparted hnumber hnext)
      | cons c more =>
          apply apart_of_head?
          intro first hfirst
          obtain rfl : c = first := by simpa using hfirst
          exact Text.isDigit_eq_false_of_isBlank (next.blank c (by simp [hgap]))
    · apply Apart.blanks_append _ next.blank
      apply apart_of_head?
      intro first hfirst
      apply next.written.isDigit_eq_false hnext
      cases htext : next.text with
      | nil =>
          -- The text of a token is not empty.
          have hlexemes := next.written.lexemesFrom_eq 0
          rw [htext, lexemesFrom_nil] at hlexemes
          cases hlexemes
      | cons c more =>
          rw [htext] at hfirst
          obtain rfl : c = first := by simpa using hfirst
          exact List.mem_cons_self
  · apply apart_of_getLast?
    intro last hlast
    exact piece.written.isDigit_eq_false hnumber (List.mem_of_getLast? hlast)

/-- What is put down behind a token does not touch it inside a digit run. -/
theorem apart_rendered {more : List Inscription} (hparted : (piece :: more).IsChain Parted)
    (htrailing : ∀ c ∈ trailing, Text.isBlank c = true) :
    Apart piece.text (rendered more ++ trailing) := by
  cases more with
  | nil =>
      have hnothing : Apart piece.text [] := apart_of_head? _ (by simp)
      simpa [rendered] using hnothing.blanks_append htrailing
  | cons next more =>
      rw [rendered_cons_append]
      exact Parted.apart (List.isChain_cons_cons.1 hparted).1 _

/-- The lexemes of a rendered text are its tokens at their places. -/
theorem lexemesFrom_rendered (hparted : pieces.IsChain Parted)
    (htrailing : ∀ c ∈ trailing, Text.isBlank c = true) (column : Column) :
    lexemesFrom column (rendered pieces ++ trailing) = lexemes column pieces := by
  induction pieces generalizing column with
  | nil => exact lexemesFrom_eq_nil_of_blank trailing column htrailing
  | cons piece more ih =>
      have hapart := apart_rendered hparted htrailing
      rw [rendered_cons_append, lexemesFrom_blanks_append piece.blank, lexemesFrom_append hapart,
        piece.written.lexemesFrom_eq, ih hparted.tail]
      rfl

/-- All tokens that are put down are acceptable. -/
theorem accepted_lexemes (column : Column) (pieces : List Inscription) :
    accepted (lexemes column pieces) = .ok (pieces.map token) := by
  induction pieces generalizing column with
  | nil => rfl
  | cons piece more ih =>
      rw [lexemes, accepted_of_not_closes piece.written.closes_eq_false, ih]
      rfl

/-- A token is put down behind the text in front of it. -/
theorem getElem?_lexemes (column : Column) (before : List Inscription) (piece : Inscription)
    (behind : List Inscription) :
    (lexemes column (before ++ piece :: behind))[before.length]? =
      some ⟨piece.token, column + (rendered before ++ piece.gap).length⟩ := by
  induction before generalizing column with
  | nil => rfl
  | cons first before ih =>
      rw [List.cons_append, lexemes, List.length_cons, List.getElem?_cons_succ, ih,
        rendered_cons_append]
      simp only [List.length_append, Nat.add_assoc]

end Inscription

open Inscription

/-- A line into which tokens have been put is read back as the same tokens.  Each token is a number
that fits, an operator or a character that is no blank, no digit and no symbol of an operator; in
front of each one and at the end of the line stand any blanks, but at least one between two
numbers.  The tokens of the line are the ones that have been put down, and each of them starts
behind all that has been written before it. -/
theorem tokenize_rendered (pieces : List Inscription) (trailing : List Char)
    (hparted : pieces.IsChain Parted) (htrailing : ∀ c ∈ trailing, Text.isBlank c = true)
    (hline : rendered pieces ++ trailing ≠ []) :
    tokenize (String.ofList (rendered pieces ++ trailing)) = .ok (pieces.map Inscription.token) ∧
      ∀ before piece behind, pieces = before ++ piece :: behind →
        let s := (ofString (String.ofList (rendered pieces ++ trailing))).after before.length
        s.scan.1.token = piece.token ∧
          s.scan.2.start = (rendered before ++ piece.gap).length := by
  have hlexemes : Segmentation.lexemes (rendered pieces ++ trailing) = lexemes 0 pieces := by
    rw [← lexemesFrom_zero, lexemesFrom_rendered hparted htrailing]
  have hnonempty : String.ofList (rendered pieces ++ trailing) ≠ "" := by
    intro hempty
    exact hline (String.ofList_eq_empty_iff.1 hempty)
  constructor
  · rw [tokenize_of_ne hnonempty, String.toList_ofList, hlexemes, accepted_lexemes]
  · rintro before piece behind rfl
    -- The start that the scanner reports is the column of the lexeme that it has read.
    have hread : ((ofString (String.ofList
        (rendered (before ++ piece :: behind) ++ trailing))).after before.length).scan.1 =
          ⟨piece.token, (rendered before ++ piece.gap).length⟩ := by
      rw [scan_after_ofString, String.toList_ofList, stream, hlexemes, getElem?_lexemes,
        Nat.zero_add]
      rfl
    exact ⟨congrArg Lexeme.token hread, congrArg Lexeme.column hread⟩

/-- A number behind zeros, another number, and an operator and a letter without a blank. -/
def Inscription.mixed : List Inscription := [
  ⟨[' ', '\t'], .number 7, _, List.all_eq_true.1 rfl, .number 2 (by decide)⟩,
  ⟨['\n'], .number 80, _, List.all_eq_true.1 rfl, .number 0 (by decide)⟩,
  ⟨[], .operator .multiply, _, List.all_eq_true.1 rfl, .operator .multiply⟩,
  ⟨[], .invalid 'é', _, List.all_eq_true.1 rfl,
    .invalid rfl rfl (by intro op; cases op <;> decide)⟩]

theorem tokenize_rendered_mixed :
    (mixed.IsChain Parted ∧ (∀ c ∈ [' '], Text.isBlank c = true) ∧
      rendered mixed ++ [' '] = " \t007\n80*é ".toList) ∧
      tokenize " \t007\n80*é " =
        .ok [.number 7, .number 80, .operator .multiply, .invalid 'é'] := by
  have hparted : mixed.IsChain Parted := by
    simp [mixed, Parted, Token.category]
  have hblank : ∀ c ∈ [' '], Text.isBlank c = true := List.all_eq_true.1 rfl
  have hline : rendered mixed ++ [' '] = " \t007\n80*é ".toList := by decide
  refine ⟨⟨hparted, hblank, hline⟩, ?_⟩
  obtain ⟨htokens, -⟩ := tokenize_rendered mixed [' '] hparted hblank (by simp)
  rwa [hline, String.ofList_toList] at htokens

end LineCalculator
