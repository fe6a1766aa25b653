import LineCalculator.Proofs.Stream
import Mathlib.Order.Monotone.Basic

/-!
# The spans of a line

Each lexeme that a scanner reads takes up a span of the line, from the start that the
scanner then reports up to the column where it then stands.  This file shows that the
spans cut the line without loss: no character is in two spans, the characters in none of
them are exactly the blanks, and each span holds either one character or a digit run that
cannot be made longer on either side.

What a span holds is said by the characters of the line alone (`Span.Holds`).  The
invariant is on the place where a scanner stands: it is never inside a digit run, so a run
that is read next is maximal on its left side as well.

Main statement: `scan_spans`.
-/

namespace LineCalculator

/-- A range of columns, from `start` up to, but not including, `stop`. -/
structure Span where
  start : Nat
  stop : Nat

namespace Span

/-- A column lies in a span. -/
def Covers (span : Span) (column : Nat) : Prop := span.start ≤ column ∧ column < span.stop

/-- A span cuts a line into the text before it, its own text and the text behind it. -/
structure Cuts (span : Span) (line before text behind : List Char) : Prop where
  line_eq : line = before ++ (text ++ behind)
  start_eq : span.start = before.length
  stop_eq : span.stop = before.length + text.length

/-- The token that a span of a line holds.  The value of a digit run is the full one,
whether or not it fits. -/
inductive Holds (line : List Char) (span : Span) : Token → Prop
  | operator {before behind : List Char} (op : Operator)
      (hcuts : span.Cuts line before [op.symbol] behind) : Holds line span (.operator op)
  | invalid {before behind : List Char} {c : Char} (hcuts : span.Cuts line before [c] behind)
      (hblank : Text.isBlank c = false) (hdigit : c.isDigit = false)
      (hoperator : ∀ op : Operator, c ≠ op.symbol) : Holds line span (.invalid c)
  | digits {before run behind : List Char} (hcuts : span.Cuts line before run behind)
      (hnonempty : run ≠ []) (hdigits : ∀ c ∈ run, c.isDigit = true)
      (hbefore : ∀ c ∈ before.getLast?, c.isDigit = false)
      (hbehind : ∀ c ∈ behind.head?, c.isDigit = false) :
      Holds line span (Segmentation.numeral run)

variable {line before text behind : List Char} {span : Span} {token : Token}

/-- A column in a span shows a character of its text. -/
theorem Cuts.mem_text (hcuts : span.Cuts line before text behind) {column : Nat} {c : Char}
    (hcovers : span.Covers column) (hc : (line)[column]? = some c) : c ∈ text := by
  obtain ⟨rfl, hstart, hstop⟩ := hcuts
  obtain ⟨hfrom, hto⟩ := hcovers
  rw [List.getElem?_append_right (by omega), List.getElem?_append_left (by omega)] at hc
  exact List.mem_of_getElem? hc

theorem Holds.start_lt_stop (hholds : span.Holds line token) : span.start < span.stop := by
  cases hholds with
  | operator _ hcuts =>
      rw [hcuts.start_eq, hcuts.stop_eq]
      exact Nat.lt_succ_self _
  | invalid hcuts _ _ _ =>
      rw [hcuts.start_eq, hcuts.stop_eq]
      exact Nat.lt_succ_self _
  | digits hcuts hnonempty _ _ _ =>
      rw [hcuts.start_eq, hcuts.stop_eq]
      exact Nat.lt_add_of_pos_right (List.length_pos_iff.2 hnonempty)

/-- No character in the span of a lexeme is a blank. -/
theorem Holds.isBlank_eq_false (hholds : span.Holds line token) {column : Nat} {c : Char}
    (hcovers : span.Covers column) (hc : (line)[column]? = some c) : Text.isBlank c = false := by
  cases hholds with
  | operator op hcuts =>
      obtain rfl := List.mem_singleton.1 (hcuts.mem_text hcovers hc)
      exact Segmentation.isBlank_symbol op
  | invalid hcuts hblank _ _ =>
      obtain rfl := List.mem_singleton.1 (hcuts.mem_text hcovers hc)
      exact hblank
  | digits hcuts _ hdigits _ _ =>
      exact Text.isBlank_eq_false_of_isDigit (hdigits c (hcuts.mem_text hcovers hc))

end Span

namespace Scanner

open Segmentation

/-- The span of the lexeme that is read next. -/
def span (s : Scanner) : Span := ⟨s.scan.2.start, s.scan.2.column⟩

/-- A scanner stands in a line behind some text, and not inside a digit run. -/
structure StandsBehind (s : Scanner) (line before : List Char) : Prop where
  line_eq : line = before ++ s.rest
  length_eq : before.length = s.column
  apart : Apart before s.rest

variable {line before : List Char} {s : Scanner}

/-- The blanks in front of the lexeme that is read next. -/
def blanks (s : Scanner) : List Char := s.rest.takeWhile Text.isBlank

/-- The text of the lexeme that is read next. -/
def spelling (s : Scanner) : List Char := firstSpelling (s.rest.dropWhile Text.isBlank)

theorem isBlank_of_mem_blanks {c : Char} (hmem : c ∈ s.blanks) : Text.isBlank c = true :=
  List.all_eq_true.1 List.all_takeWhile c hmem

/-- The unread rest is what is skipped, what is read and what is left. -/
theorem blanks_append_spelling (s : Scanner) :
    s.blanks ++ (s.spelling ++ s.scan.2.rest) = s.rest := by
  show s.rest.takeWhile Text.isBlank ++ (firstSpelling (s.rest.dropWhile Text.isBlank) ++
    (s.rest.dropWhile Text.isBlank).drop _) = s.rest
  rw [firstSpelling_append_drop, List.takeWhile_append_dropWhile]

theorem span_start (s : Scanner) : s.span.start = s.column + s.blanks.length := rfl

theorem span_stop (s : Scanner) : s.span.stop = s.span.start + s.spelling.length := rfl

/-- Reading cuts the line at the blanks and at the end of the spelling. -/
theorem StandsBehind.cuts (hstands : s.StandsBehind line before) :
    s.span.Cuts line (before ++ s.blanks) s.spelling s.scan.2.rest where
  line_eq := by rw [List.append_assoc, blanks_append_spelling, hstands.line_eq]
  start_eq := by rw [List.length_append, hstands.length_eq, span_start]
  stop_eq := by rw [List.length_append, hstands.length_eq, span_stop, span_start]

/-- Between the place of a scanner and the lexeme that it reads next there are only blanks. -/
theorem StandsBehind.isBlank_of_lt (hstands : s.StandsBehind line before) {column : Nat} {c : Char}
    (hfrom : before.length ≤ column) (hto : column < s.span.start) (hc : (line)[column]? = some c) :
    Text.isBlank c = true := by
  have hlength := hstands.length_eq
  have hstart := s.span_start
  rw [hstands.line_eq, ← blanks_append_spelling, List.getElem?_append_right (by omega),
    List.getElem?_append_left (by omega)] at hc
  exact isBlank_of_mem_blanks (List.mem_of_getElem? hc)

/-- The character in front of a lexeme that begins with a digit is no digit. -/
theorem StandsBehind.before_not_digit (hstands : s.StandsBehind line before) {first : Char}
    {more : List Char} (hrest : s.rest.dropWhile Text.isBlank = first :: more)
    (hdigit : first.isDigit = true) :
    ∀ c ∈ (before ++ s.blanks).getLast?, c.isDigit = false := by
  intro c hc
  by_cases hblanks : s.blanks = []
  · -- Nothing is skipped, so the place of the scanner would be inside a digit run.
    have hhead : s.rest.head? = some first := by
      rw [← List.takeWhile_append_dropWhile (p := Text.isBlank) (l := s.rest), hrest]
      rw [blanks] at hblanks
      rw [hblanks]
      rfl
    rw [hblanks, List.append_nil] at hc
    have hapart := hstands.apart c hc first hhead
    rwa [hdigit, Bool.and_true] at hapart
  · rw [List.getLast?_append_of_ne_nil _ hblanks] at hc
    exact Text.isDigit_eq_false_of_isBlank (isBlank_of_mem_blanks (List.mem_of_getLast? hc))

/-- The text of a lexeme and the text behind it do not touch inside a digit run. -/
theorem spelling_apart (s : Scanner) : Apart s.spelling s.scan.2.rest := by
  show Apart (firstSpelling (s.rest.dropWhile Text.isBlank))
    ((s.rest.dropWhile Text.isBlank).drop _)
  cases s.rest.dropWhile Text.isBlank with
  | nil => exact apart_of_head? _ (by simp)
  | cons first more => exact firstSpelling_apart first more

/-- A lexeme that begins with a digit is a maximal digit run. -/
theorem StandsBehind.holds_of_digit (hstands : s.StandsBehind line before) {first : Char}
    {more : List Char} (hrest : s.rest.dropWhile Text.isBlank = first :: more)
    (hdigit : first.isDigit = true) : s.span.Holds line s.scan.1.token := by
  have hspelling : s.spelling = first :: more.takeWhile Char.isDigit := by
    rw [spelling, hrest, firstSpelling, if_pos hdigit]
  have hdigits : ∀ c ∈ s.spelling, c.isDigit = true := by
    rw [hspelling]
    exact Text.isDigit_of_mem_run hdigit more
  have hnonempty : s.spelling ≠ [] := by
    rw [hspelling]
    exact List.cons_ne_nil _ _
  have htoken : s.scan.1.token = numeral s.spelling := by
    show Token.ofSpelling s.spelling = _
    rw [hspelling, Token.ofSpelling, if_pos hdigit, ofDigits_eq_numeral]
  have hbehind : ∀ c ∈ s.scan.2.rest.head?, c.isDigit = false := by
    intro c hc
    have hlast := hdigits _ (List.getLast_mem hnonempty)
    have hapart := s.spelling_apart _ (List.getLast?_eq_some_getLast hnonempty) c hc
    rwa [hlast, Bool.true_and] at hapart
  rw [htoken]
  exact .digits hstands.cuts hnonempty hdigits (hstands.before_not_digit hrest hdigit) hbehind

/-- A lexeme that begins with any other character is that character. -/
theorem StandsBehind.holds_of_not_digit (hstands : s.StandsBehind line before) {first : Char}
    {more : List Char} (hrest : s.rest.dropWhile Text.isBlank = first :: more)
    (hdigit : first.isDigit = false) : s.span.Holds line s.scan.1.token := by
  have hnot : ¬ first.isDigit = true := by simp [hdigit]
  have hspelling : s.spelling = [first] := by
    rw [spelling, hrest, firstSpelling, if_neg hnot]
  have htoken : s.scan.1.token = Token.ofSymbol first := by
    show Token.ofSpelling s.spelling = _
    rw [hspelling, Token.ofSpelling, if_neg hnot]
  have hcuts := hstands.cuts
  rw [hspelling] at hcuts
  rw [htoken, Token.ofSymbol]
  cases hop : Operator.ofSymbol? first with
  | some op =>
      rw [Operator.ofSymbol?_eq_some_iff.1 hop] at hcuts
      exact .operator op hcuts
  | none =>
      refine .invalid hcuts (Text.isBlank_eq_false_of_dropWhile hrest) hdigit ?_
      rintro op rfl
      rw [Operator.ofSymbol?_symbol] at hop
      cases hop

/-- A scanner cuts a line between two lexemes. -/
theorem StandsBehind.lexemes_eq (hstands : s.StandsBehind line before) :
    lexemes line = lexemes before ++ s.ahead := by
  rw [hstands.line_eq, lexemes_append hstands.apart, hstands.length_eq]
  rfl

/-- Where a lexeme is left, its span holds it. -/
theorem StandsBehind.holds (hstands : s.StandsBehind line before)
    (hmore : s.scan.1.token ≠ .endOfLine) : s.span.Holds line s.scan.1.token := by
  cases hrest : s.rest.dropWhile Text.isBlank with
  | nil =>
      obtain ⟨-, hend, -⟩ := scan_of_blank hrest
      rw [hend] at hmore
      exact absurd rfl hmore
  | cons first more =>
      cases hdigit : first.isDigit with
      | true => exact hstands.holds_of_digit hrest hdigit
      | false => exact hstands.holds_of_not_digit hrest hdigit

/-- The place behind a lexeme is not inside a digit run. -/
theorem StandsBehind.scan (hstands : s.StandsBehind line before) :
    s.scan.2.StandsBehind line (before ++ s.blanks ++ s.spelling) where
  line_eq := by rw [hstands.cuts.line_eq, List.append_assoc _ s.spelling]
  length_eq := by
    rw [List.length_append, ← hstands.cuts.start_eq]
    rfl
  apart := by
    intro last hlast next hnext
    by_cases hempty : s.spelling = []
    · -- At the end of the line nothing follows.
      rw [spelling, firstSpelling_eq_nil_iff] at hempty
      have hleft : s.scan.2.rest = [] := by simp [Scanner.scan, hempty]
      rw [hleft] at hnext
      cases hnext
    · rw [List.getLast?_append_of_ne_nil _ hempty] at hlast
      exact s.spelling_apart last hlast next hnext

/-! Reading lexeme after lexeme. -/

/-- Reading one more lexeme. -/
theorem after_add_one (s : Scanner) (count : Nat) : s.after (count + 1) = (s.after count).scan.2 :=
  (s.after_after count 1).symm

/-- A scanner stands in its line before the first and behind every lexeme. -/
theorem exists_standsBehind (line : String) (count : Nat) :
    ∃ before, ((ofString line).after count).StandsBehind line.toList before := by
  induction count with
  | zero => exact ⟨[], rfl, rfl, apart_of_getLast? _ (by simp)⟩
  | succ count ih =>
      obtain ⟨before, hstands⟩ := ih
      rw [after_add_one]
      exact ⟨_, hstands.scan⟩

/-- A scanner has those lexemes ahead that follow in the stream. -/
theorem ahead_after_ofString (line : String) (count : Nat) :
    ((ofString line).after count).ahead = following line.toList count := by
  have hall : (ofString line).ahead = lexemes line.toList := lexemesFrom_zero _
  rw [ahead_after, hall, following]

/-- Each span begins where the one before it ends or behind that place. -/
theorem span_stop_le_start (s : Scanner) {earlier later : Nat} (hlt : earlier < later) :
    (s.after earlier).span.stop ≤ (s.after later).span.start := by
  induction later with
  | zero => exact absurd hlt (Nat.not_lt_zero earlier)
  | succ later ih =>
      -- The scanner stands at the end of the span before, and only skips blanks.
      have hnext : (s.after later).span.stop ≤ (s.after (later + 1)).span.start := by
        rw [after_add_one, span_start]
        exact Nat.le_add_right _ _
      rcases Nat.lt_succ_iff_lt_or_eq.1 hlt with hless | rfl
      · have hbefore := ih hless
        have hown := (s.after later).span_stop
        omega
      · exact hnext

/-- Up to the place of a scanner, every character that is no blank is in a span. -/
theorem isBlank_or_covers (line : String) (count : Nat) {column : Nat} {c : Char}
    (hlt : column < ((ofString line).after count).column) (hc : line.toList[column]? = some c) :
    Text.isBlank c = true ∨ ∃ index < count, ((ofString line).after index).span.Covers column := by
  induction count with
  | zero => exact absurd hlt (Nat.not_lt_zero column)
  | succ count ih =>
      obtain ⟨before, hstands⟩ := exists_standsBehind line count
      have hlength := hstands.length_eq
      by_cases hearlier : column < ((ofString line).after count).column
      · obtain hblank | ⟨index, hindex, hcovers⟩ := ih hearlier
        · exact .inl hblank
        · exact .inr ⟨index, Nat.lt_succ_of_lt hindex, hcovers⟩
      · by_cases hskipped : column < ((ofString line).after count).span.start
        · exact .inl (hstands.isBlank_of_lt (by omega) hskipped hc)
        · rw [after_add_one] at hlt
          exact .inr ⟨count, Nat.lt_succ_self count, Nat.le_of_not_lt hskipped, hlt⟩

end Scanner

namespace Segmentation

/-- The end of the line comes in the stream behind all lexemes. -/
theorem token_eq_endOfLine_iff {line : List Char} {index : Nat} :
    (stream line index).token = .endOfLine ↔ (lexemes line).length ≤ index := by
  rw [← following_eq_nil_iff, following, List.drop_eq_nil_iff]

/-- Behind all lexemes the end of the line stands behind the last character. -/
theorem column_of_length_le {line : List Char} {index : Nat}
    (hindex : (lexemes line).length ≤ index) : (stream line index).column = line.length := by
  rw [stream, List.getElem?_eq_none hindex]
  rfl

end Segmentation

/-- A line is cut by numbered spans, each of which holds a token. -/
structure Segmented (line : List Char) (count : Nat) (span : Nat → Span) (token : Nat → Token) :
    Prop where
  /-- No span is empty. -/
  nonempty : ∀ index < count, (span index).start < (span index).stop
  /-- No two spans share a column, and they are numbered from left to right. -/
  ordered : ∀ earlier later, earlier < later → later < count →
    (span earlier).stop ≤ (span later).start
  /-- The blanks are exactly the characters in no span. -/
  blank_iff : ∀ column c, (line)[column]? = some c →
    (Text.isBlank c = true ↔ ∀ index < count, ¬ (span index).Covers column)
  /-- Each span holds its token. -/
  holds : ∀ index < count, (span index).Holds line (token index)

open Scanner Segmentation

/-- The span of a lexeme of a line holds its token. -/
theorem holds_span (line : String) {index : Nat} (hindex : index < (lexemes line.toList).length) :
    ((ofString line).after index).span.Holds line.toList
      ((ofString line).after index).scan.1.token := by
  obtain ⟨before, hstands⟩ := exists_standsBehind line index
  apply hstands.holds
  rw [scan_after_ofString, Ne, token_eq_endOfLine_iff]
  omega

/-- The start that is reported with the end of the line is the length of the line. -/
theorem span_start_of_length_le (line : String) {index : Nat}
    (hindex : (lexemes line.toList).length ≤ index) :
    ((ofString line).after index).span.start = line.length := by
  show ((ofString line).after index).scan.1.column = line.length
  rw [scan_after_ofString, column_of_length_le hindex, String.length_toList]

/-- The span of a lexeme ends in front of each later entry of the stream. -/
theorem span_stop_le_column (line : String) {earlier later : Nat} (hlt : earlier < later) :
    ((ofString line).after earlier).span.stop ≤ (stream line.toList later).column := by
  rw [← scan_after_ofString]
  exact span_stop_le_start _ hlt

/-- The entries of the stream move on in the line until its end is reached. -/
theorem column_lt_column (line : String) {earlier later : Nat} (hlt : earlier < later)
    (hmore : (stream line.toList earlier).token ≠ .endOfLine) :
    (stream line.toList earlier).column < (stream line.toList later).column := by
  have hindex : earlier < (lexemes line.toList).length := by
    rw [Ne, token_eq_endOfLine_iff] at hmore
    omega
  have hnonempty := (holds_span line hindex).start_lt_stop
  have hstart : ((ofString line).after earlier).span.start =
      (stream line.toList earlier).column := by
    rw [← scan_after_ofString]
    rfl
  rw [← hstart]
  exact Nat.lt_of_lt_of_le hnonempty (span_stop_le_column line hlt)

/-- No lexeme comes twice in the stream. -/
theorem index_eq_of_stream_eq (line : String) {index index' : Nat}
    (hsame : stream line.toList index = stream line.toList index')
    (hmore : (stream line.toList index).token ≠ .endOfLine) : index = index' := by
  rcases Nat.lt_trichotomy index index' with hlt | heq | hgt
  · have hcolumn := column_lt_column line hlt hmore
    rw [hsame] at hcolumn
    exact absurd hcolumn (Nat.lt_irrefl _)
  · exact heq
  · rw [hsame] at hmore
    have hcolumn := column_lt_column line hgt hmore
    rw [hsame] at hcolumn
    exact absurd hcolumn (Nat.lt_irrefl _)

/-- A character that is no blank is in the span of a lexeme. -/
theorem exists_span_covers (line : String) {column : Nat} {c : Char}
    (hc : line.toList[column]? = some c) (hblank : Text.isBlank c = false) :
    ∃ index < (lexemes line.toList).length, ((ofString line).after index).span.Covers column := by
  -- All characters stand before the end of the line, which is read behind the lexemes.
  have hend := span_start_of_length_le line (Nat.le_refl (lexemes line.toList).length)
  have hcolumn : column < line.length := by
    rw [← String.length_toList]
    exact (List.getElem?_eq_some_iff.1 hc).1
  have hlt : column < ((ofString line).after ((lexemes line.toList).length + 1)).column := by
    rw [after_add_one]
    have hstop := ((ofString line).after (lexemes line.toList).length).span_stop
    show column < ((ofString line).after (lexemes line.toList).length).span.stop
    omega
  obtain hblank' | ⟨index, hindex, hcovers⟩ := isBlank_or_covers line _ hlt hc
  · rw [hblank] at hblank'
    cases hblank'
  · refine ⟨index, ?_, hcovers⟩
    -- The end of the line takes up nothing.
    rcases Nat.lt_succ_iff_lt_or_eq.1 hindex with hless | rfl
    · exact hless
    · have hfrom := hcovers.1
      omega

theorem segmented_scan (line : String) :
    Segmented line.toList (lexemes line.toList).length
      (fun index => ((ofString line).after index).span)
      (fun index => ((ofString line).after index).scan.1.token) where
  nonempty index hindex := (holds_span line hindex).start_lt_stop
  ordered _ _ hlt _ := span_stop_le_start _ hlt
  blank_iff column c hc := by
    constructor
    · intro hblank index hindex hcovers
      rw [(holds_span line hindex).isBlank_eq_false hcovers hc] at hblank
      cases hblank
    · intro hnone
      by_contra hblank
      rw [Bool.not_eq_true] at hblank
      obtain ⟨index, hindex, hcovers⟩ := exists_span_covers line hc hblank
      exact hnone index hindex hcovers
  holds _ hindex := holds_span line hindex

/-- Reading a line lexeme by lexeme cuts it without loss.  There is a number of lexemes,
behind which the end of the line comes and stays, such that

* the spans of these lexemes are not empty, share no column and come from left to right,
* the characters in no span are exactly the blanks,
* each span holds the token that is read there: the operator or the invalid character that
  stands there alone, or the number or the oversized literal of a digit run with no further
  digit on either side,
* the end of the line starts behind the last character, however often it is read. -/
theorem scan_spans (line : String) :
    ∃ count,
      Segmented line.toList count (fun index => ((ofString line).after index).span)
        (fun index => ((ofString line).after index).scan.1.token) ∧
      (∀ index < count, ((ofString line).after index).scan.1.token ≠ .endOfLine) ∧
      ∀ index, count ≤ index →
        ((ofString line).after index).scan.1.token = .endOfLine ∧
          ((ofString line).after index).span.start = line.length := by
  refine ⟨(lexemes line.toList).length, segmented_scan line, ?_, ?_⟩
  · intro index hindex
    rw [scan_after_ofString, Ne, token_eq_endOfLine_iff]
    omega
  · intro index hindex
    refine ⟨?_, span_start_of_length_le line hindex⟩
    rw [scan_after_ofString, token_eq_endOfLine_iff]
    exact hindex

end LineCalculator
