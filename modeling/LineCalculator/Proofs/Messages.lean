import LineCalculator.Proofs.Escapes
import LineCalculator.Proofs.Location
import LineCalculator.Proofs.Oversized

/-!
# Messages of faults

The sentence that reports a fault says all there is to the fault.  Each kind of fault has a sentence
that begins with another letter, and the token, the column and the category in it can be told
apart: a token is named by digits, by a quoted character or by fixed words, a column by digits
behind a fixed word, and a category by the words at the end.  So a sentence can be read back
(`ofMessage?_message`).

One thing keeps this from being true of every fault that can be put together: an invalid character
that is the symbol of an operator would be named like that operator.  No line holds such a token,
and the number of a token is never negative (`plain_stream`).

Main statement: `eq_of_message_eq`.
-/

namespace LineCalculator

open Evaluation Scanner Segmentation

/-! Reading the parts of a sentence. -/

theorem dropPrefix?_append (word rest : List Char) : (word ++ rest).dropPrefix? word = some rest :=
  List.dropPrefix?_append_of_beq rest (beq_self_eq_true word)

/-- Read the words that name a column, and give the text behind them. -/
def Column.ofLabel? (text : List Char) : Option (Column × List Char) := do
  let shown ← text.dropPrefix? "column ".toList
  return (Decimal.value (shown.takeWhile Char.isDigit) - 1, shown.dropWhile Char.isDigit)

theorem Column.ofLabel?_label_append (column : Column) {rest : List Char}
    (hrest : ∀ c ∈ rest.head?, c.isDigit = false) :
    ofLabel? ((label column).toList ++ rest) = some (column, rest) := by
  have hdigits : ∀ c ∈ Decimal.digits (column + 1), c.isDigit = true :=
    fun c hc => Decimal.isDigit_of_mem_digits hc
  have htext : (label column).toList ++ rest =
      "column ".toList ++ (Decimal.digits (column + 1) ++ rest) := by
    simp [label, Decimal.ofNat]
  rw [htext, ofLabel?, dropPrefix?_append]
  show some (_, _) = _
  rw [Text.takeWhile_append_of_stop hdigits hrest, Text.dropWhile_append_of_stop hdigits hrest,
    Decimal.value_digits, Nat.add_sub_cancel]

/-- The category that some words name inside a message. -/
def Category.ofQuotation? (words : List Char) : Option Category :=
  [number, operator .add, operator .subtract, operator .multiply, operator .divide, endOfLine,
    invalid].find? fun category => category.quotation.toList = words

theorem Category.ofQuotation?_quotation (category : Category) :
    ofQuotation? category.quotation.toList = some category := by
  cases category with
  | operator op => cases op <;> decide
  | number => decide
  | endOfLine => decide
  | invalid => decide

namespace Token

/-- The tokens that a message can name without being mistaken: a number is not negative, and an
invalid character is not the symbol of an operator. -/
def Plain : Token → Prop
  | number n => 0 ≤ n
  | invalid c => Operator.ofSymbol? c = none
  | _ => True

/-- Read the words that name a token inside a message, and give the text behind them. -/
def ofQuotation? : List Char → Option (Token × List Char)
  | '\'' :: shown => do
      let (c, rest) ← Text.unescape? shown
      return (ofSymbol c, ← rest.dropPrefix? ['\''])
  | 'n' :: text => (text.dropPrefix? "umber too large".toList).map fun rest => (oversized, rest)
  | 'e' :: text => (text.dropPrefix? "nd of input".toList).map fun rest => (endOfLine, rest)
  | text =>
      some (number (Decimal.value (text.takeWhile Char.isDigit)), text.dropWhile Char.isDigit)

/-- A character in quotes is read as the token that it is in a line. -/
theorem ofQuotation?_quoted_append (c : Char) (rest : List Char) :
    ofQuotation? ((Text.quoted .message c).toList ++ rest) = some (ofSymbol c, rest) := by
  have htext : (Text.quoted .message c).toList ++ rest =
      '\'' :: (Text.escape .message c ++ (['\''] ++ rest)) := by
    simp [Text.quoted]
  rw [htext, ofQuotation?, Text.unescape?_escape_append]
  show (do return (ofSymbol c, ← (['\''] ++ rest).dropPrefix? ['\''])) = _
  rw [dropPrefix?_append]
  rfl

/-- The symbol of an operator is shown as itself. -/
theorem quoted_symbol (op : Operator) : Text.quoted .message op.symbol = op.quotation := by
  have hshown : Text.escape .message op.symbol = [op.symbol] := by
    have hvisible : Text.isHidden op.symbol = false := by
      apply Text.isHidden_eq_false_of_printable <;> cases op <;> decide
    have hplain : Text.escapeLetter? op.symbol = none ∧ op.symbol ∉ Text.Place.marked .message := by
      cases op <;> decide
    rw [Text.escape, hplain.1]
    dsimp only
    rw [if_neg hplain.2, hvisible]
    rfl
  rw [Text.quoted, hshown]
  rfl

/-- The digits of a number are read up to the first other character. -/
theorem ofQuotation?_digits_append (n : Nat) {rest : List Char}
    (hrest : ∀ c ∈ rest.head?, c.isDigit = false) :
    ofQuotation? (Decimal.digits n ++ rest) = some (number n, rest) := by
  have hdigits : ∀ c ∈ Decimal.digits n, c.isDigit = true :=
    fun c hc => Decimal.isDigit_of_mem_digits hc
  have hread : some (number (Decimal.value ((Decimal.digits n ++ rest).takeWhile Char.isDigit)),
      (Decimal.digits n ++ rest).dropWhile Char.isDigit) = some (number n, rest) := by
    rw [Text.takeWhile_append_of_stop hdigits hrest, Text.dropWhile_append_of_stop hdigits hrest,
      Decimal.value_digits]
  cases htext : Decimal.digits n with
  | nil => exact absurd htext (Decimal.digits_ne_nil n)
  | cons first more =>
      rw [htext] at hread hdigits
      have hfirst := hdigits first List.mem_cons_self
      rw [← hread, List.cons_append, ofQuotation?]
      -- No digit begins one of the other forms.
      all_goals
        intro _ heq
        obtain rfl := (List.cons.inj heq).1
        cases hfirst

/-- The name of a plain token is read back, if no digit stands behind it. -/
theorem ofQuotation?_quotation_append {token : Token} (hplain : token.Plain) {rest : List Char}
    (hrest : ∀ c ∈ rest.head?, c.isDigit = false) :
    ofQuotation? (token.quotation.toList ++ rest) = some (token, rest) := by
  cases token with
  | number n =>
      obtain ⟨n, rfl⟩ := Int.eq_ofNat_of_zero_le hplain
      have htext : (number n).quotation.toList = Decimal.digits n := String.toList_ofList
      rw [htext]
      exact ofQuotation?_digits_append n hrest
  | operator op =>
      rw [quotation, ← quoted_symbol, ofQuotation?_quoted_append, ofSymbol,
        Operator.ofSymbol?_symbol]
  | invalid c =>
      have hsymbol : Operator.ofSymbol? c = none := hplain
      rw [quotation, ofQuotation?_quoted_append, ofSymbol, hsymbol]
  | oversized =>
      show ofQuotation? ('n' :: ("umber too large".toList ++ rest)) = _
      rw [ofQuotation?, dropPrefix?_append]
      rfl
  | endOfLine =>
      show ofQuotation? ('e' :: ("nd of input".toList ++ rest)) = _
      rw [ofQuotation?, dropPrefix?_append]
      rfl

end Token

namespace Fault

/-- A fault names at most a plain token. -/
def Plain : Fault → Prop
  | unexpected _ found _ => found.Plain
  | _ => True

/-- The part of a message in front of the column that it names. -/
def opening : Fault → String
  | emptyLine => ""
  | unexpected _ found _ => "unexpected token " ++ found.quotation ++ " at "
  | divisionByZero _ => "division by zero at "
  | literalTooLarge _ => "number literal at "
  | overflow _ => "arithmetic overflow at "

/-- The part of a message behind the column that it names. -/
def closing : Fault → String
  | unexpected expected _ _ => ", expected " ++ expected.quotation
  | literalTooLarge _ => " does not fit in a 64-bit integer"
  | _ => ""

/-- A message names its column between two parts. -/
theorem toList_message {fault : Fault} {column : Column} (hcolumn : fault.column? = some column) :
    fault.message.toList =
      fault.opening.toList ++ ((Column.label column).toList ++ fault.closing.toList) := by
  unfold message opening closing
  cases fault with
  | emptyLine => cases hcolumn
  | unexpected expected found column =>
      cases hcolumn
      simp only [String.toList_append, List.append_assoc]
  | literalTooLarge column =>
      cases hcolumn
      simp only [String.toList_append, List.append_assoc]
  | _ =>
      cases hcolumn
      simp only [String.toList_append, String.toList_empty, List.append_nil]

/-- No digit stands behind the column. -/
theorem isDigit_of_head?_closing (fault : Fault) :
    ∀ c ∈ fault.closing.toList.head?, c.isDigit = false := by
  unfold closing
  cases fault <;> simp

/-- A text shows a number as that of a column: its digits stand behind the word for one, and no
further digit follows. -/
def ShowsColumn (text : String) (number : Nat) : Prop :=
  ∃ front back, text.toList = front ++ ("column ".toList ++ (Decimal.digits number ++ back)) ∧
    ∀ c ∈ back.head?, c.isDigit = false

/-- Columns are shown counted from one. -/
theorem showsColumn_message {fault : Fault} {column : Column}
    (hcolumn : fault.column? = some column) : ShowsColumn fault.message (column + 1) := by
  refine ⟨fault.opening.toList, fault.closing.toList, ?_, isDigit_of_head?_closing fault⟩
  rw [toList_message hcolumn]
  simp [Column.label, Decimal.ofNat]

/-- Read the words that name a column behind some others. -/
def columnBehind? (words : String) (message : List Char) : Option Column := do
  let shown ← message.dropPrefix? words.toList
  let (column, _) ← Column.ofLabel? shown
  return column

/-- Read the sentence that reports a fault. -/
def ofMessage? (message : List Char) : Option Fault :=
  match message.head? with
  | some 'u' => do
      let shown ← message.dropPrefix? "unexpected token ".toList
      let (found, more) ← Token.ofQuotation? shown
      let (column, last) ← Column.ofLabel? (← more.dropPrefix? " at ".toList)
      let expected ← Category.ofQuotation? (← last.dropPrefix? ", expected ".toList)
      return unexpected expected found column
  | some 'd' => (columnBehind? "division by zero at " message).map divisionByZero
  | some 'n' => (columnBehind? "number literal at " message).map literalTooLarge
  | some 'a' => (columnBehind? "arithmetic overflow at " message).map overflow
  | _ => some emptyLine

theorem columnBehind?_message (fault : Fault) {column : Column}
    (hcolumn : fault.column? = some column) :
    columnBehind? fault.opening fault.message.toList = some column := by
  rw [columnBehind?, toList_message hcolumn, dropPrefix?_append, Option.bind_eq_bind,
    Option.bind_some, Column.ofLabel?_label_append column (isDigit_of_head?_closing fault)]
  rfl

/-- The sentence that reports a fault is read back as that fault. -/
theorem ofMessage?_message {fault : Fault} (hplain : fault.Plain) :
    ofMessage? fault.message.toList = some fault := by
  -- The first letter tells the kinds of faults apart.
  have hletter (letter : Char) {column : Column} (hcolumn : fault.column? = some column)
      (hopening : fault.opening.toList.head? = some letter) :
      fault.message.toList.head? = some letter := by
    rw [toList_message hcolumn, List.head?_append, hopening]
    rfl
  cases fault with
  | emptyLine => rfl
  | unexpected expected found column =>
      have hhead := hletter 'u' rfl (by unfold opening; simp)
      have hmessage : (unexpected expected found column).message.toList =
          "unexpected token ".toList ++ (found.quotation.toList ++ (" at ".toList ++
            ((Column.label column).toList ++ (", expected ".toList ++
              expected.quotation.toList)))) := by
        rw [toList_message rfl]
        unfold opening closing
        simp only [String.toList_append, List.append_assoc]
      have hfound : ∀ c ∈ (" at ".toList ++ ((Column.label column).toList ++
          (", expected ".toList ++ expected.quotation.toList))).head?, c.isDigit = false := by
        simp
      have hcolumn : ∀ c ∈ (", expected ".toList ++ expected.quotation.toList).head?,
          c.isDigit = false := by
        simp
      rw [ofMessage?, hhead, hmessage]
      simp only [dropPrefix?_append, Option.bind_eq_bind, Option.bind_some,
        Token.ofQuotation?_quotation_append hplain hfound,
        Column.ofLabel?_label_append column hcolumn, Category.ofQuotation?_quotation]
      rfl
  | divisionByZero column =>
      have hread : columnBehind? "division by zero at " _ = _ :=
        columnBehind?_message (divisionByZero column) rfl
      rw [ofMessage?, hletter 'd' rfl (by unfold opening; simp)]
      dsimp only
      rw [hread]
      rfl
  | literalTooLarge column =>
      have hread : columnBehind? "number literal at " _ = _ :=
        columnBehind?_message (literalTooLarge column) rfl
      rw [ofMessage?, hletter 'n' rfl (by unfold opening; simp)]
      dsimp only
      rw [hread]
      rfl
  | overflow column =>
      have hread : columnBehind? "arithmetic overflow at " _ = _ :=
        columnBehind?_message (overflow column) rfl
      rw [ofMessage?, hletter 'a' rfl (by unfold opening; simp)]
      dsimp only
      rw [hread]
      rfl

/-! The faults of a line. -/

/-- The faults that a line gives rise to: evaluating it in either mode, listing its tokens, or
asking for anything in a state that can be reached on it. -/
inductive ArisesIn (line : String) (fault : Fault) : Prop
  | evaluated (mode : Mode) (hfault : evaluate mode line = .error fault)
  | tokenized (hfault : tokenize line = .error fault)
  | asked (reading : List Scanner.Request) (asked : List Evaluation.Request)
      (request : Evaluation.Request)
      (hfault : outcome (request.serve.run (reached line reading asked)) = .error fault)

/-- Entries that bear a fault out have its column. -/
theorem EvidentAt.exists_column {entry : Nat → Lexeme} {index : Nat} {fault : Fault}
    {column : Column} (hevident : fault.EvidentAt entry index)
    (hcolumn : fault.column? = some column) : ∃ place, (entry place).column = column := by
  cases fault with
  | emptyLine => cases hcolumn
  | unexpected expected found column =>
      cases hcolumn
      exact ⟨index, by rw [hevident.1]⟩
  | divisionByZero column =>
      cases hcolumn
      obtain ⟨sign, -, hsign, -⟩ := hevident
      exact ⟨sign, by rw [hsign]⟩
  | literalTooLarge column =>
      cases hcolumn
      obtain ⟨literal, -, hliteral⟩ := hevident
      exact ⟨literal, by rw [hliteral]⟩
  | overflow column =>
      cases hcolumn
      rcases hevident with ⟨sign, -, -, hsign, -⟩ | ⟨sign, _, _, hsign, -⟩
      · exact ⟨sign, by rw [hsign]⟩
      · exact ⟨sign, by rw [hsign]⟩

end Fault

namespace Segmentation

theorem plain_token (first : Char) (more : List Char) : (token first more).Plain := by
  unfold token
  split
  · unfold numeral
    split
    · exact Int.natCast_nonneg _
    · trivial
  · cases hop : Operator.ofSymbol? first with
    | none => exact hop
    | some op => trivial

/-- The tokens of a line are plain. -/
theorem plain_stream (line : List Char) (index : Nat) : (stream line index).token.Plain := by
  rcases stream_mem_or_eq_end line index with hmem | hend
  · obtain ⟨first, -, more, htoken⟩ := exists_token_of_mem_lexemes hmem
    rw [htoken]
    exact plain_token first more
  · rw [hend]
    trivial

end Segmentation

namespace Fault

variable {line : String} {fault : Fault}

/-- Asking for a total meets only faults that the entries around some place bear out. -/
theorem exists_evidentAt_total (mode : Mode)
    (hfault : outcome ((total mode).run (.ofScanner (.ofString line))) = .error fault) :
    ∃ index, fault.EvidentAt (stream line.toList) index := by
  have hliterals := literals_stream line.toList
  have hat := Lookahead.at_ofScanner line 0
  cases mode with
  | lenient =>
      obtain ⟨stop, -, -, -, hevident⟩ := follows_total_lenient hliterals hat
      exact ⟨stop, hevident fault hfault⟩
  | strict =>
      obtain ⟨stop, -, -, -, hevident⟩ := follows_total_strict hliterals hat
      exact ⟨stop, hevident fault hfault⟩

/-- However a fault arises, the line is empty or the entries around some place bear it out. -/
theorem ArisesIn.evident (harises : fault.ArisesIn line) :
    fault = .emptyLine ∨ ∃ index, fault.EvidentAt (stream line.toList) index := by
  cases harises with
  | evaluated mode hfault =>
      by_cases hline : line = ""
      · subst hline
        rw [evaluate_empty] at hfault
        cases hfault
        exact .inl rfl
      · rw [evaluate_of_ne mode hline] at hfault
        exact .inr (exists_evidentAt_total mode hfault)
  | tokenized hfault =>
      by_cases hline : line = ""
      · subst hline
        cases hfault
        exact .inl rfl
      · rw [tokenize_of_ne hline, accepted_eq_error_iff] at hfault
        obtain ⟨column, hfind, rfl⟩ := hfault
        obtain ⟨literal, hfirst⟩ := find?_closes_eq_some_iff.1 hfind
        exact .inr ⟨literal + 1, literal, rfl, hfirst.entry_eq⟩
  | asked reading asked request hfault =>
      obtain ⟨index, hat⟩ := exists_at_reached line reading asked
      obtain ⟨stop, -, hserved⟩ := exists_served (literals_stream line.toList) hat request
      exact .inr ⟨stop, hserved.evident fault hfault⟩

/-- The tokens that are found where they should not be are tokens of the line. -/
theorem ArisesIn.plain (harises : fault.ArisesIn line) : fault.Plain := by
  rcases harises.evident with rfl | ⟨index, hevident⟩
  · trivial
  · cases fault with
    | unexpected expected found column =>
        have hplain := plain_stream line.toList index
        rw [hevident.1] at hplain
        exact hplain
    | _ => trivial

/-- No fault is reported behind the end of the line. -/
theorem ArisesIn.column_le (harises : fault.ArisesIn line) {column : Column}
    (hcolumn : fault.column? = some column) : column ≤ line.length := by
  rcases harises.evident with rfl | ⟨index, hevident⟩
  · cases hcolumn
  · obtain ⟨place, rfl⟩ := hevident.exists_column hcolumn
    have hle := column_le_length line place
    rwa [String.length_toList] at hle

end Fault

/-- Every character of a text takes up at least one byte. -/
theorem Text.length_le_utf8ByteSize (text : String) : text.length ≤ text.utf8ByteSize := by
  rw [← String.ofList_toList (s := text), String.length_ofList]
  induction text.toList with
  | nil => exact Nat.zero_le _
  | cons c cs ih =>
      have hbyte := c.utf8Size_pos
      rw [List.length_cons, String.ofList_cons, String.utf8ByteSize_append,
        String.utf8ByteSize_singleton]
      omega

/-- The greatest number of a machine word that counts columns. -/
def greatestColumn : Nat := 18446744073709551615

open Fault

/-- The message of a fault identifies it.  Of any two faults that any lines give rise to, those with
the same message are the same fault, with the same column, the same category expected and the same
token found.

A message shows the column counted from one.  This is at most one more than the number of characters
of the line, so it can be counted for every line of which the bytes can be.

It matters that the faults arise: an invalid character that is the symbol of an operator would be
shown like that operator, but no line gives rise to such a fault. -/
theorem eq_of_message_eq {line line' : String} {fault fault' : Fault}
    (harises : fault.ArisesIn line) (harises' : fault'.ArisesIn line') :
    (fault.message = fault'.message → fault = fault') ∧
    (∀ column, fault.column? = some column →
      ShowsColumn fault.message (column + 1) ∧ column + 1 ≤ line.length + 1 ∧
        ((line.utf8ByteSize : Int) ≤ greatestInteger → column + 1 ≤ greatestColumn)) ∧
    ∀ expected op column,
      (unexpected expected (.invalid (Operator.symbol op)) column).message =
          (unexpected expected (.operator op) column).message ∧
        fault ≠ unexpected expected (.invalid op.symbol) column := by
  refine ⟨?_, ?_, ?_⟩
  · intro hmessage
    have hread := ofMessage?_message harises.plain
    rw [hmessage, ofMessage?_message harises'.plain] at hread
    exact (Option.some.inj hread).symm
  · intro column hcolumn
    have hle := harises.column_le hcolumn
    refine ⟨showsColumn_message hcolumn, Nat.succ_le_succ hle, ?_⟩
    intro hbytes
    have hlength := Text.length_le_utf8ByteSize line
    have hlimit : line.length + 1 ≤ greatestColumn := by
      unfold greatestInteger at hbytes
      unfold greatestColumn
      omega
    exact Nat.le_trans (Nat.succ_le_succ hle) hlimit
  · intro expected op column
    constructor
    · have hquotation : (Token.invalid op.symbol).quotation = (Token.operator op).quotation :=
        Token.quoted_symbol op
      unfold message
      dsimp only
      rw [hquotation]
    · rintro rfl
      have hplain : Operator.ofSymbol? op.symbol = none := harises.plain
      rw [Operator.ofSymbol?_symbol] at hplain
      cases hplain

/-- A quote and a plus sign where a number should be. -/
theorem eq_of_message_eq_symbol :
    ((unexpected .number (.invalid '\'') 0).ArisesIn "'+" ∧
      (unexpected .number (.operator .add) 0).ArisesIn "+'") ∧
    (unexpected .number (.invalid '\'') 0).message ≠
        (unexpected .number (.operator .add) 0).message ∧
      ShowsColumn (unexpected .number (.invalid '\'') 0).message 1 := by
  have hquote : (unexpected .number (.invalid '\'') 0).ArisesIn "'+" := .asked [] [] .factor rfl
  have hplus : (unexpected .number (.operator .add) 0).ArisesIn "+'" := .asked [] [] .factor rfl
  obtain ⟨hsame, hshown, -⟩ := eq_of_message_eq hquote hplus
  refine ⟨⟨hquote, hplus⟩, ?_, (hshown 0 rfl).1⟩
  intro hmessage
  have hfault := hsame hmessage
  cases hfault

end LineCalculator
