import LineCalculator.Proofs.Exchange
import LineCalculator.Proofs.Strictness

/-!
# Substitution

That products bind tighter than sums means for a line: a term can be replaced by its value.
This holds in any surroundings in which the text is a whole term, that is, nothing but
blanks, a plus or a minus stands next to it.  What stands further away may be anything, also
text that is refused, and the line need not even be read up to the term.

The surroundings of a term cut the line into three texts whose lexemes stand side by side
(`lexemes_inside`), so any two terms of the same value can be exchanged there
(`displaced_exchange_terms`).  The value of a term is never negative, so its digits are a
literal and with that a term themselves.

Main statement: `displaced_replace_term`.
-/

namespace LineCalculator

open Evaluation Formula Segmentation

namespace Segmentation

/-- Some text writes a plus or a minus. -/
def WritesSum (c : Char) : Prop := c = '+' ∨ c = '-'

/-- A term can begin behind some text: the text is blank, or a plus or a minus is its last
character that is no blank. -/
def OpensTerm (text : List Char) : Prop :=
  ∀ c ∈ (text.filter fun d => !Text.isBlank d).getLast?, WritesSum c

/-- A term can end in front of some text: the text is blank, or a plus or a minus is its first
character that is no blank. -/
def ClosesTerm (text : List Char) : Prop :=
  ∀ c ∈ (text.filter fun d => !Text.isBlank d).head?, WritesSum c

instance (c : Char) : Decidable (WritesSum c) :=
  inferInstanceAs (Decidable (_ ∨ _))

instance (text : List Char) : Decidable (OpensTerm text) :=
  Option.decidableForallMem _

instance (text : List Char) : Decidable (ClosesTerm text) :=
  Option.decidableForallMem _

theorem WritesSum.exists_operator {c : Char} (hsum : WritesSum c) :
    ∃ op : Operator, op.level = .sum ∧ c = op.symbol := by
  rcases hsum with rfl | rfl
  · exact ⟨.add, rfl, rfl⟩
  · exact ⟨.subtract, rfl, rfl⟩

/-- Text behind which a term can begin, in parts. -/
theorem OpensTerm.cases {text : List Char} (hopens : OpensTerm text) :
    (∀ c ∈ text, Text.isBlank c = true) ∨
      ∃ (front : List Char) (op : Operator) (blanks : List Char), op.level = .sum ∧
        text = front ++ op.symbol :: blanks ∧ ∀ c ∈ blanks, Text.isBlank c = true := by
  unfold OpensTerm at hopens
  rw [List.getLast?_filter] at hopens
  cases hfind : text.reverse.find? fun d => !Text.isBlank d with
  | none =>
      left
      intro c hc
      simpa using List.find?_eq_none.1 hfind c (List.mem_reverse.2 hc)
  | some c =>
      right
      obtain ⟨op, hlevel, rfl⟩ := (hopens c hfind).exists_operator
      obtain ⟨-, behind, front, htext, hblanks⟩ := List.find?_eq_some_iff_append.1 hfind
      refine ⟨front.reverse, op, behind.reverse, hlevel, ?_, by simpa using hblanks⟩
      rw [← List.reverse_reverse text, htext]
      simp

/-- Text in front of which a term can end, in parts. -/
theorem ClosesTerm.cases {text : List Char} (hcloses : ClosesTerm text) :
    (∀ c ∈ text, Text.isBlank c = true) ∨
      ∃ (blanks : List Char) (op : Operator) (back : List Char), op.level = .sum ∧
        text = blanks ++ op.symbol :: back ∧ ∀ c ∈ blanks, Text.isBlank c = true := by
  unfold ClosesTerm at hcloses
  rw [List.head?_filter] at hcloses
  cases hfind : text.find? fun d => !Text.isBlank d with
  | none =>
      left
      intro c hc
      simpa using List.find?_eq_none.1 hfind c hc
  | some c =>
      right
      obtain ⟨op, hlevel, rfl⟩ := (hcloses c hfind).exists_operator
      obtain ⟨-, blanks, back, htext, hblanks⟩ := List.find?_eq_some_iff_append.1 hfind
      exact ⟨blanks, op, back, hlevel, htext, by simpa using hblanks⟩

variable {before inner behind : List Char}

/-- A term does not begin inside a digit run. -/
theorem OpensTerm.apart (hopens : OpensTerm before) (inner : List Char) : Apart before inner := by
  apply apart_of_getLast?
  intro last hlast
  rcases hopens.cases with hblank | ⟨front, op, blanks, -, rfl, hblanks⟩
  · exact Text.isDigit_eq_false_of_isBlank (hblank last (List.mem_of_getLast? hlast))
  · rw [List.getLast?_append_of_ne_nil _ (List.cons_ne_nil _ _)] at hlast
    rcases List.mem_cons.1 (List.mem_of_getLast? hlast) with rfl | hmem
    · exact isDigit_symbol op
    · exact Text.isDigit_eq_false_of_isBlank (hblanks last hmem)

/-- A term does not end inside a digit run. -/
theorem ClosesTerm.apart (hcloses : ClosesTerm behind) (inner : List Char) :
    Apart inner behind := by
  rcases hcloses.cases with hblank | ⟨blanks, op, back, -, rfl, hblanks⟩
  · have hnothing : Apart inner [] := apart_of_head? inner (by simp)
    rw [← List.append_nil behind]
    exact hnothing.blanks_append hblank
  · have hsymbol : Apart inner (op.symbol :: back) :=
      apart_of_head? inner (by simp [isDigit_symbol])
    exact hsymbol.blanks_append hblanks

/-- The last lexeme in front of a term is an operator of the sum level. -/
theorem OpensTerm.exists_operator (hopens : OpensTerm before) {index : Nat}
    (hindex : index + 1 = (lexemes before).length) :
    ∃ op column, (lexemes before)[index]? = some ⟨.operator op, column⟩ ∧ op.level = .sum := by
  rcases hopens.cases with hblank | ⟨front, op, blanks, hlevel, rfl, hblanks⟩
  · rw [← lexemesFrom_zero, lexemesFrom_eq_nil_of_blank _ _ hblank] at hindex
    cases hindex
  · have hapart : Apart front (op.symbol :: blanks) :=
      apart_of_head? front (by simp [isDigit_symbol])
    have hlexemes : lexemes (front ++ op.symbol :: blanks) =
        lexemes front ++ [⟨.operator op, front.length⟩] := by
      rw [lexemes_append hapart, lexemesFrom_symbol_cons,
        lexemesFrom_eq_nil_of_blank _ _ hblanks]
    rw [hlexemes, List.length_append] at hindex
    obtain rfl : index = (lexemes front).length := Nat.succ.inj hindex
    exact ⟨op, _, by rw [hlexemes, List.getElem?_concat_length], hlevel⟩

/-- The first lexeme behind a term is an operator of the sum level, if there is one. -/
theorem ClosesTerm.lexemesFrom_cases (hcloses : ClosesTerm behind) (column : Column) :
    lexemesFrom column behind = [] ∨
      ∃ op column' more, lexemesFrom column behind = ⟨.operator op, column'⟩ :: more ∧
        op.level = .sum := by
  rcases hcloses.cases with hblank | ⟨blanks, op, back, hlevel, rfl, hblanks⟩
  · exact .inl (lexemesFrom_eq_nil_of_blank _ _ hblank)
  · right
    rw [lexemesFrom_blanks_append hblanks, lexemesFrom_symbol_cons]
    exact ⟨op, _, _, rfl, hlevel⟩

/-- A text between two others that do not touch it inside a digit run. -/
theorem lexemes_inside (hopens : OpensTerm before) (hcloses : ClosesTerm behind)
    (inner : List Char) :
    lexemes (before ++ (inner ++ behind)) =
      lexemes before ++ (lexemesFrom before.length inner ++
        lexemesFrom (before.length + inner.length) behind) := by
  rw [lexemes_append (hopens.apart _), lexemesFrom_append (hcloses.apart inner)]

/-- In front of the inner text, a line reads as the first text does. -/
theorem stream_before (hopens : OpensTerm before) (hcloses : ClosesTerm behind)
    (inner : List Char) {index : Nat} (hlt : index < (lexemes before).length) :
    stream (before ++ (inner ++ behind)) index =
      (lexemes before)[index]?.getD ⟨.endOfLine, (before ++ (inner ++ behind)).length⟩ := by
  rw [stream, lexemes_inside hopens hcloses, List.getElem?_append_left hlt]

/-- Behind the inner text, a line reads as the last text does. -/
theorem stream_behind (hopens : OpensTerm before) (hcloses : ClosesTerm behind)
    (inner : List Char) (offset : Nat) :
    stream (before ++ (inner ++ behind))
        ((lexemes before).length + (lexemes inner).length + offset) =
      (lexemesFrom (before.length + inner.length) behind)[offset]?.getD
        ⟨.endOfLine, (before ++ (inner ++ behind)).length⟩ := by
  have hlength : (lexemes inner).length = (lexemesFrom before.length inner).length := by
    rw [← List.length_map Lexeme.token, ← map_token_lexemesFrom before.length, List.length_map]
  rw [stream, lexemes_inside hopens hcloses, hlength, Nat.add_assoc,
    List.getElem?_append_right (Nat.le_add_right _ _), Nat.add_sub_cancel_left,
    List.getElem?_append_right (Nat.le_add_right _ _), Nat.add_sub_cancel_left]

/-- A text is a term: its tokens write the tree of one, in which every value exists and
fits. -/
structure WritesTerm (text : List Char) (formula : Formula) : Prop where
  isTerm : IsTerm formula
  sound : formula.Sound
  tokens : (lexemes text).map Lexeme.token = formula.spelling

variable {formula formula' : Formula} {inner' : List Char}

theorem WritesTerm.length_eq (hterm : WritesTerm inner formula) :
    (lexemes inner).length = formula.spelling.length := by
  rw [← hterm.tokens, List.length_map]

/-- A term has its own value in any surroundings that leave it whole. -/
theorem WritesTerm.exists_course (hterm : WritesTerm inner formula) (hopens : OpensTerm before)
    (hcloses : ClosesTerm behind) :
    ∃ events, TermCourse (stream (before ++ (inner ++ behind))) (lexemes before).length
      (.ok formula.value) events ((lexemes before).length + (lexemes inner).length) := by
  have htokens : tokensFrom (before ++ (inner ++ behind)) (lexemes before).length =
      formula.spelling ++
        (lexemesFrom (before.length + inner.length) behind).map Lexeme.token := by
    rw [tokensFrom, following, lexemes_inside hopens hcloses, List.drop_left, List.map_append,
      map_token_lexemesFrom, hterm.tokens]
  obtain ⟨stop, hwritten, hstop⟩ := exists_writtenBy htokens
  rw [hterm.length_eq, ← hwritten.stop_eq]
  apply exists_termCourse hterm.isTerm hwritten hterm.sound
  -- An operator behind the term is the first one of the text behind it.
  intro op htoken
  rw [tokensFrom_of_token htoken Token.noConfusion] at hstop
  rcases hcloses.lexemesFrom_cases (before.length + inner.length) with hnil | hcons
  · rw [hnil] at hstop
    cases hstop
  · obtain ⟨op', column', more, hcons, hsum⟩ := hcons
    rw [hcons, List.map_cons] at hstop
    obtain rfl : op = op' := Token.operator.inj (List.cons.inj hstop).1
    simp [hsum]

/-- Where columns go when the text of length `length` at the column `start` is replaced by one
of length `length'`. -/
def Replaced (start length length' : Nat) (column column' : Column) : Prop :=
  (column < start ∧ column' = column) ∨
    (start + length ≤ column ∧ column' + length = column + length')

theorem replaced_behind (start length length' offset : Nat) :
    Replaced start length length' (start + length + offset) (start + length' + offset) := by
  have hshift : start + length' + offset + length = start + length + offset + length' := by
    omega
  exact .inr ⟨Nat.le_add_right _ _, hshift⟩

/-- Two texts that are terms of the same value can be exchanged in any surroundings that leave
them whole. -/
theorem WritesTerm.exchange (hterm : WritesTerm inner formula)
    (hterm' : WritesTerm inner' formula') (hvalue : formula'.value = formula.value)
    (hopens : OpensTerm before) (hcloses : ClosesTerm behind) :
    Exchange (Replaced before.length inner.length inner'.length)
      (stream (before ++ (inner ++ behind))) (stream (before ++ (inner' ++ behind)))
      (lexemes before).length ((lexemes before).length + (lexemes inner).length)
      ((lexemes before).length + (lexemes inner').length) formula.value where
  displaced := by
    have hend : (⟨.endOfLine, (before ++ (inner ++ behind)).length⟩ : Lexeme).Displaced
        (Replaced before.length inner.length inner'.length)
        ⟨.endOfLine, (before ++ (inner' ++ behind)).length⟩ := by
      refine ⟨rfl, ?_⟩
      simp only [List.length_append, ← Nat.add_assoc]
      exact replaced_behind _ _ _ _
    rintro index index' (⟨hlt, rfl⟩ | ⟨hle, hindex⟩)
    · rw [stream_before hopens hcloses inner hlt, stream_before hopens hcloses inner' hlt]
      refine displaced_getD ?_ hend index'
      apply displaced_lexemes
      intro column hcolumn
      exact .inl ⟨hcolumn, rfl⟩
    · obtain ⟨offset, rfl⟩ := Nat.exists_eq_add_of_le hle
      obtain rfl : index' = (lexemes before).length + (lexemes inner').length + offset := by
        omega
      rw [stream_behind hopens hcloses, stream_behind hopens hcloses]
      refine displaced_getD ?_ hend offset
      apply displaced_lexemesFrom
      intro offset _
      exact replaced_behind _ _ _ _
  operator := by
    intro index hindex
    obtain ⟨op, column, hentry, hlevel⟩ := hopens.exists_operator hindex
    refine ⟨op, ?_, hlevel⟩
    have hlt : index < (lexemes before).length := Nat.lt_of_succ_le (Nat.le_of_eq hindex)
    rw [stream_before hopens hcloses inner hlt, hentry]
    rfl
  course := hterm.exists_course hopens hcloses
  course' := by
    rw [← hvalue]
    exact hterm'.exists_course hopens hcloses

/-- A line that holds a term is not empty. -/
theorem WritesTerm.line_ne_empty {front term back : String}
    (hterm : WritesTerm term.toList formula) : front ++ term ++ back ≠ "" := by
  intro hempty
  obtain ⟨hboth, -⟩ := String.append_eq_empty_iff.1 hempty
  obtain ⟨-, rfl⟩ := String.append_eq_empty_iff.1 hboth
  -- No tree is written with no token.
  have halternates := alternates_spelling formula
  rw [← hterm.tokens] at halternates
  cases halternates

/-- The value of a term is a literal. -/
theorem WritesTerm.literal {text : List Char} (hterm : WritesTerm text formula) :
    0 ≤ formula.value ∧ formula.value ≤ greatestInteger := by
  refine ⟨hterm.isTerm.value_nonneg ?_, hterm.sound.representable_value.2⟩
  intro n hn
  rw [← hterm.tokens] at hn
  obtain ⟨lexeme, hmem, htoken⟩ := List.mem_map.1 hn
  exact (literal_of_mem_lexemes hmem htoken).1

/-- The digits of a literal are a term. -/
theorem writesTerm_digits {n : Nat} (hfits : (n : Int) ≤ greatestInteger) :
    WritesTerm (Decimal.digits n) (.number n) where
  isTerm := .number n
  sound := representable_natCast.2 hfits
  tokens := by
    rw [← lexemesFrom_zero, lexemesFrom_digits hfits]
    rfl

end Segmentation

/-- Terms of the same value can be exchanged in a line.  The line keeps its value or its fault,
apart from the column. -/
theorem displaced_exchange_terms {front term term' back : String} {formula formula' : Formula}
    (hterm : WritesTerm term.toList formula) (hterm' : WritesTerm term'.toList formula')
    (hvalue : formula'.value = formula.value) (hfront : OpensTerm front.toList)
    (hback : ClosesTerm back.toList) (mode : Mode) :
    Displaced (Replaced front.length term.length term'.length)
      (evaluate mode (front ++ term ++ back)) (evaluate mode (front ++ term' ++ back)) := by
  have hexchange := hterm.exchange hterm' hvalue hfront hback
  have htext : ∀ inner : String,
      (front ++ inner ++ back).toList = front.toList ++ (inner.toList ++ back.toList) := by
    intro inner
    rw [String.toList_append, String.toList_append, List.append_assoc]
  rw [← htext, ← htext] at hexchange
  simp only [String.length_toList] at hexchange
  exact hexchange.displaced_evaluate hterm.line_ne_empty hterm'.line_ne_empty mode

/-- A line that has a value in strict mode and no operator of the sum level is a term. -/
theorem exists_writesTerm {term : String} {n : Int} (hvalue : evaluate .strict term = .ok n)
    (hproducts : ∀ op : Operator, op.symbol ∈ term.toList → op.level = .product) :
    ∃ formula, WritesTerm term.toList formula ∧ formula.value = n := by
  obtain ⟨formula, hgrammatical, htokens, hsound, hn⟩ := exists_formula_of_strict_value hvalue
  refine ⟨formula, ⟨hgrammatical.isTerm ?_, hsound, htokens⟩, hn⟩
  intro op hop
  rw [← htokens] at hop
  obtain ⟨lexeme, hmem, htoken⟩ := List.mem_map.1 hop
  exact hproducts op (symbol_mem_of_mem_lexemes hmem htoken)

/-- A term can be replaced by its value.  The text `term` stands alone for a value in strict
mode and has no operator of the sum level; in front of it stand only blanks behind a plus or a
minus, or behind nothing, and likewise behind it.  Its value is then a literal, and in both
modes the line keeps its value or its fault.  A column of a fault in front of the term stays,
and any other one is behind the term and moves by what the replacement is longer. -/
theorem displaced_replace_term (front term back : String) (n : Int)
    (hvalue : evaluate .strict term = .ok n)
    (hproducts : ∀ op : Operator, op.symbol ∈ term.toList → op.level = .product)
    (hfront : OpensTerm front.toList) (hback : ClosesTerm back.toList) :
    0 ≤ n ∧ lexemes (Decimal.ofInt n).toList = [⟨.number n, 0⟩] ∧
      ∀ mode, Displaced (Replaced front.length term.length (Decimal.ofInt n).length)
        (evaluate mode (front ++ term ++ back))
        (evaluate mode (front ++ Decimal.ofInt n ++ back)) := by
  obtain ⟨formula, hterm, rfl⟩ := exists_writesTerm hvalue hproducts
  obtain ⟨hnonneg, hfits⟩ := hterm.literal
  obtain ⟨m, hm⟩ := Int.eq_ofNat_of_zero_le hnonneg
  rw [hm] at hfits
  -- The value is written with digits only.
  have hdecimal : (Decimal.ofInt formula.value).toList = Decimal.digits m := by
    rw [hm]
    exact String.toList_ofList
  have hdigits := writesTerm_digits hfits
  rw [← hdecimal] at hdigits
  refine ⟨hnonneg, ?_, fun mode => ?_⟩
  · rw [hdecimal, ← lexemesFrom_zero, lexemesFrom_digits hfits, hm]
  · exact displaced_exchange_terms hterm hdigits hm.symm hfront hback mode

/-- A quotient of the value one in front of an unexpected letter: the fault moves from the
tenth column to the sixth. -/
theorem displaced_replace_term_unexpected :
    (evaluate .strict "6 / 4" = .ok 1 ∧
      (∀ op : Operator, op.symbol ∈ "6 / 4".toList → op.level = .product) ∧
      OpensTerm "7-".toList ∧ ClosesTerm " +x".toList) ∧
      0 ≤ (1 : Int) ∧ lexemes "1".toList = [⟨.number 1, 0⟩] ∧
        ∀ mode, Displaced (Replaced 2 5 1) (evaluate mode "7-6 / 4 +x")
          (evaluate mode "7-1 +x") := by
  have hterm : IsTerm (.combined .divide (.number 6) (.number 4)) := .combined 4 rfl (.number 6)
  have hvalue : evaluate .strict "6 / 4" = .ok 1 :=
    evaluate_strict_of_spelling (.term hterm) (by decide) (by decide)
  have hproducts : ∀ op : Operator, op.symbol ∈ "6 / 4".toList → op.level = .product := by
    intro op hop
    cases op <;> revert hop <;> decide
  have hfront : OpensTerm "7-".toList := by decide
  have hback : ClosesTerm " +x".toList := by decide
  exact ⟨⟨hvalue, hproducts, hfront, hback⟩,
    displaced_replace_term "7-" "6 / 4" " +x" 1 hvalue hproducts hfront hback⟩

end LineCalculator
