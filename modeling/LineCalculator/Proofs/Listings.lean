import LineCalculator.Console.Session
import LineCalculator.Proofs.Acceptance
import LineCalculator.Proofs.Escapes
import LineCalculator.Proofs.Stream

/-!
# Token listings

A session that is asked for tokens prints one listing on each line, or nothing at all.  What it
prints is read back by one function, which knows nothing of the line: it takes the lines apart and
reads each listing for itself.

A listing is read by the word in front of its parentheses; between them stands a number, the word
for an operator or a quoted character (`ofListing?_listing`).  All characters of a listing can be
seen, so no listing breaks a line, and tokens with the same listing are the same.

Main statement: `respond_listings`.
-/

namespace LineCalculator

open Segmentation

/-! Reading one listing. -/

/-- The integer that is written in base ten, with a minus sign in front if it is negative. -/
def Decimal.toInt : List Char → Int
  | '-' :: digits => -(Decimal.value digits : Int)
  | digits => Decimal.value digits

theorem Decimal.toInt_ofInt (n : Int) : Decimal.toInt (Decimal.ofInt n).toList = n := by
  cases n with
  | ofNat n =>
      have hvalue := Decimal.value_digits n
      rw [Decimal.ofInt, Decimal.ofNat, String.toList_ofList]
      cases hdigits : Decimal.digits n with
      | nil => exact absurd hdigits (Decimal.digits_ne_nil n)
      | cons first more =>
          have hfirst : first ≠ '-' := by
            rintro rfl
            have hdigit := Decimal.isDigit_of_mem_digits (hdigits ▸ List.mem_cons_self)
            exact absurd hdigit (by decide)
          rw [hdigits] at hvalue
          rw [Decimal.toInt, hvalue]
          · rfl
          · intro digits heq
            exact absurd (List.cons.inj heq).1 hfirst
  | negSucc n =>
      have htext : (Decimal.ofInt (.negSucc n)).toList = '-' :: Decimal.digits (n + 1) := by
        simp only [Decimal.ofInt, Decimal.ofNat, String.toList_append, String.toList_ofList]
        rfl
      rw [htext, Decimal.toInt, Decimal.value_digits]
      rfl

/-- The operator that a word names in a listing. -/
def Operator.ofListing? (word : List Char) : Option Operator :=
  [add, subtract, multiply, divide].find? fun op => op.listing.toList = word

theorem Operator.ofListing?_listing (op : Operator) : ofListing? op.listing.toList = some op := by
  cases op <;> decide

/-- The character that stands between single quotes. -/
def Text.ofQuoted? : List Char → Option Char
  | '\'' :: shown =>
      match unescape? shown with
      | some (c, ['\'']) => some c
      | _ => none
  | _ => none

theorem Text.ofQuoted?_quoted (place : Place) (c : Char) :
    ofQuoted? (quoted place c).toList = some c := by
  rw [quoted, String.toList_ofList, List.cons_append, ofQuoted?, unescape?_escape_append]
  rfl

namespace Token

/-- Read the listing of a token. -/
def ofListing? (text : List Char) : Option Token :=
  let content := (text.dropWhile (· ≠ '(')).tail.dropLast
  match String.ofList (text.takeWhile (· ≠ '(')) with
  | "Number" => some (.number (Decimal.toInt content))
  | "Operator" => (Operator.ofListing? content).map .operator
  | "Invalid" => (Text.ofQuoted? content).map .invalid
  | "NumberTooLarge" => some .oversized
  | "EOF" => some .endOfLine
  | _ => none

/-- The word in front of the parentheses, and what stands between them. -/
theorem split_listing (word : List Char) (hword : '(' ∉ word) (content : List Char) :
    (word ++ '(' :: (content ++ [')'])).takeWhile (· ≠ '(') = word ∧
      ((word ++ '(' :: (content ++ [')'])).dropWhile (· ≠ '(')).tail.dropLast = content := by
  have hfront : ∀ c ∈ word, (decide (c ≠ '(')) = true := by
    intro c hc
    exact decide_eq_true (ne_of_mem_of_not_mem hc hword)
  have hstop : ∀ c ∈ ('(' :: (content ++ [')'])).head?, (decide (c ≠ '(')) = false := by simp
  constructor
  · exact Text.takeWhile_append_of_stop hfront hstop
  · rw [Text.dropWhile_append_of_stop hfront hstop]
    exact List.dropLast_concat

/-- A listing is read back as its token. -/
theorem ofListing?_listing (token : Token) : ofListing? token.listing.toList = some token := by
  cases token with
  | number n =>
      have hlisting : (number n).listing.toList =
          "Number".toList ++ '(' :: ((Decimal.ofInt n).toList ++ [')']) := by
        simp [listing]
      obtain ⟨hword, hcontent⟩ := split_listing "Number".toList (by decide)
        (Decimal.ofInt n).toList
      rw [hlisting, ofListing?, hword, hcontent, Decimal.toInt_ofInt]
      rfl
  | operator op =>
      have hlisting : (operator op).listing.toList =
          "Operator".toList ++ '(' :: (op.listing.toList ++ [')']) := by
        simp [listing]
      obtain ⟨hword, hcontent⟩ := split_listing "Operator".toList (by decide)
        op.listing.toList
      rw [hlisting, ofListing?, hword, hcontent, Operator.ofListing?_listing]
      rfl
  | invalid c =>
      have hlisting : (invalid c).listing.toList =
          "Invalid".toList ++ '(' :: ((Text.quoted .listing c).toList ++ [')']) := by
        simp [listing]
      obtain ⟨hword, hcontent⟩ := split_listing "Invalid".toList (by decide)
        (Text.quoted .listing c).toList
      rw [hlisting, ofListing?, hword, hcontent, Text.ofQuoted?_quoted]
      rfl
  | oversized => rfl
  | endOfLine => rfl

/-- Tokens with the same listing are the same. -/
theorem listing_injective : Function.Injective listing := by
  intro token token' hlisting
  have hread := ofListing?_listing token
  rw [hlisting, ofListing?_listing] at hread
  exact (Option.some.inj hread).symm

/-! The characters of a listing. -/

/-- A text between two printable ones can be seen if it can be seen alone. -/
theorem isHidden_of_mem_between {opening content closing : String} {c : Char}
    (hopening : (opening.toList.all fun c => 0x20 ≤ c.toNat && c.toNat < 0x7f) = true)
    (hclosing : (closing.toList.all fun c => 0x20 ≤ c.toNat && c.toNat < 0x7f) = true)
    (hcontent : c ∈ content.toList → Text.isHidden c = false)
    (hmem : c ∈ (opening ++ content ++ closing).toList) : Text.isHidden c = false := by
  rw [String.toList_append, String.toList_append, List.mem_append, List.mem_append] at hmem
  rcases hmem with (hfront | hinside) | hback
  · exact Text.isHidden_of_mem_printable hopening hfront
  · exact hcontent hinside
  · exact Text.isHidden_of_mem_printable hclosing hback

theorem isHidden_of_mem_digits {n : Nat} {c : Char} (hmem : c ∈ Decimal.digits n) :
    Text.isHidden c = false :=
  Text.isHidden_of_isDigit (Decimal.isDigit_of_mem_digits hmem)

theorem isHidden_of_mem_ofInt {n : Int} {c : Char} (hmem : c ∈ (Decimal.ofInt n).toList) :
    Text.isHidden c = false := by
  cases n with
  | ofNat n =>
      rw [Decimal.ofInt, Decimal.ofNat, String.toList_ofList] at hmem
      exact isHidden_of_mem_digits hmem
  | negSucc n =>
      simp only [Decimal.ofInt, Decimal.ofNat, String.toList_append, String.toList_ofList,
        List.mem_append] at hmem
      rcases hmem with hminus | hdigit
      · exact Text.isHidden_of_mem_printable (by decide) hminus
      · exact isHidden_of_mem_digits hdigit

theorem isHidden_of_mem_quoted {place : Text.Place} {c d : Char}
    (hmem : d ∈ (Text.quoted place c).toList) : Text.isHidden d = false := by
  rw [Text.quoted, String.toList_ofList, List.cons_append, List.mem_cons, List.mem_append] at hmem
  rcases hmem with rfl | hshown | hquote
  · exact Text.isHidden_eq_false_of_printable (by decide) (by decide)
  · exact Text.isHidden_of_mem_escape hshown
  · exact Text.isHidden_of_mem_printable (by decide) hquote

/-- All characters of a listing can be seen. -/
theorem isHidden_of_mem_listing {token : Token} {c : Char} (hmem : c ∈ token.listing.toList) :
    Text.isHidden c = false := by
  cases token with
  | number n => exact isHidden_of_mem_between (by decide) (by decide) isHidden_of_mem_ofInt hmem
  | operator op => exact Text.isHidden_of_mem_printable (by cases op <;> decide) hmem
  | invalid d => exact isHidden_of_mem_between (by decide) (by decide) isHidden_of_mem_quoted hmem
  | oversized => exact Text.isHidden_of_mem_printable (by decide) hmem
  | endOfLine => exact Text.isHidden_of_mem_printable (by decide) hmem

end Token

/-- The characters at which a reader may break a line. -/
def Text.lineBreaks : List Char := ['\n', '\x0b', '\x0c', '\r', '\u0085', '\u2028', '\u2029']

theorem Text.isHidden_of_mem_lineBreaks {c : Char} (hmem : c ∈ lineBreaks) : isHidden c = true := by
  have hall : (lineBreaks.all isHidden) = true := by decide +kernel
  exact List.all_eq_true.1 hall c hmem

/-- No listing breaks a line. -/
theorem Token.not_mem_listing_of_mem_lineBreaks (token : Token) {c : Char}
    (hbreak : c ∈ Text.lineBreaks) : c ∉ token.listing.toList := by
  intro hmem
  have hhidden := Text.isHidden_of_mem_lineBreaks hbreak
  rw [isHidden_of_mem_listing hmem] at hhidden
  cases hhidden

/-! Reading all listings. -/

namespace Console

/-- The lines of a text in which a line feed ends each line. -/
def linesOf (text : List Char) : List (List Char) := (text.splitOn '\n').dropLast

/-- Read a text that has the listing of a token on each line. -/
def readListings? (printed : String) : Option (List Token) :=
  (linesOf printed.toList).mapM Token.ofListing?

/-- The text with the listing of a token on each line. -/
def listings (tokens : List Token) : String :=
  String.join (tokens.map fun token => token.listing ++ "\n")

theorem linesOf_cons {line : List Char} (hline : '\n' ∉ line) (text : List Char) :
    linesOf (line ++ '\n' :: text) = line :: linesOf text := by
  rw [linesOf, List.splitOn_append_cons_self_of_not_mem hline,
    List.dropLast_cons_of_ne_nil (List.splitOn_ne_nil _ _)]
  rfl

/-- Listings stand on lines of their own. -/
theorem linesOf_listings (tokens : List Token) :
    linesOf (listings tokens).toList = tokens.map fun token => token.listing.toList := by
  induction tokens with
  | nil => rfl
  | cons token tokens ih =>
      have htext : (listings (token :: tokens)).toList =
          token.listing.toList ++ '\n' :: (listings tokens).toList := by
        simp [listings, String.toList_join]
      rw [htext, linesOf_cons (token.not_mem_listing_of_mem_lineBreaks (by decide)), ih]
      rfl

theorem readListings?_listings (tokens : List Token) :
    readListings? (listings tokens) = some tokens := by
  rw [readListings?, linesOf_listings]
  induction tokens with
  | nil => rfl
  | cons token tokens ih =>
      rw [List.map_cons, List.mapM_cons, Token.ofListing?_listing, ih]
      rfl

/-! A session that is asked for tokens. -/

/-- A command line that asks for the tokens of a line and names that line itself. -/
structure AsksTokens (texts : List String) (line : String) (arguments : Arguments) : Prop where
  parse_eq : Arguments.parse texts = .ok arguments
  tokens : arguments.has .tokens = true
  expression_eq : arguments.expression? = some line

/-- Every line can be named, in either mode. -/
theorem asksTokens (line : String) :
    AsksTokens ["--tokens", "--", line] line ⟨[.tokens], some line⟩ ∧
      AsksTokens ["--tokens", "--strict", "--", line] line ⟨[.strict, .tokens], some line⟩ :=
  ⟨⟨rfl, rfl, rfl⟩, ⟨rfl, rfl, rfl⟩⟩

variable {surroundings : Surroundings} {texts : List String} {line : String}
  {arguments : Arguments}

/-- The report of a fault, in colour or without. -/
def reportOf (coloured : Bool) (fault : Fault) : String :=
  paint coloured .fault ("Error: " ++ fault.message) ++ "\n"

/-- What is answered to such a command line.  Of its flags only the one for colour matters. -/
theorem AsksTokens.respond_eq (hasks : AsksTokens texts line arguments) (input : List UInt8) :
    respond surroundings texts input =
      let coloured := !arguments.has .noColor && (surroundings.noColor?.getD "").isEmpty
      let filter := LogFilter.parse (surroundings.logFilter?.getD "")
      let log := String.join (((tokenizeWithEvents line).2.filter filter.shows).map logLine)
      match tokenize line with
      | .ok tokens => ⟨0, listings tokens, log⟩
      | .error fault => ⟨1, "", log ++ reportOf coloured fault⟩ := by
  have hsession : Session.ofArguments surroundings texts = .ok {
      arguments
      coloured := !arguments.has .noColor && (surroundings.noColor?.getD "").isEmpty
      filter := .parse (surroundings.logFilter?.getD "") } := by
    rw [Session.ofArguments, hasks.parse_eq]
  rw [respond, hsession]
  dsimp only
  rw [hasks.expression_eq]
  dsimp only [Session.answer]
  rw [if_pos hasks.tokens, tokenize]
  obtain ⟨result, events⟩ := tokenizeWithEvents line
  cases result with
  | ok tokens => rfl
  | error fault =>
      dsimp only [Session.failure, Session.log, reportOf]
      rw [String.append_assoc]

end Console

/-- A line has no acceptable tokens if it is empty or holds an oversized literal anywhere. -/
theorem exists_tokenize_eq_error_iff (line : String) :
    (∃ fault, tokenize line = .error fault) ↔
      line = "" ∨ ∃ lexeme ∈ lexemes line.toList, lexeme.token = .oversized := by
  by_cases hline : line = ""
  · subst hline
    exact ⟨fun _ => .inl rfl, fun _ => ⟨.emptyLine, rfl⟩⟩
  · rw [tokenize_of_ne hline]
    simp only [hline, false_or]
    constructor
    · rintro ⟨fault, hfault⟩
      obtain ⟨column, hfind, -⟩ := Scanner.accepted_eq_error_iff.1 hfault
      exact ⟨_, List.mem_of_find?_eq_some hfind, rfl⟩
    · rintro ⟨literal, hmem, htoken⟩
      -- The first lexeme that closes the sequence is no end, so it is an oversized literal.
      have hsome : ((lexemes line.toList).find? fun lexeme =>
          Scanner.closes lexeme.token).isSome := by
        rw [List.find?_isSome]
        exact ⟨literal, hmem, by rw [htoken]; rfl⟩
      obtain ⟨first, hfirst⟩ := Option.isSome_iff_exists.1 hsome
      have hcloses := List.find?_some hfirst
      rcases Scanner.closes_cases first.token with hend | hoversized | hopen
      · exact absurd hend (token_ne_endOfLine_of_mem (List.mem_of_find?_eq_some hfirst))
      · rw [Lexeme.eq_of_token hoversized] at hfirst
        exact ⟨_, Scanner.accepted_eq_error_iff.2 ⟨_, hfirst, rfl⟩⟩
      · rw [hopen] at hcloses
        cases hcloses

namespace Console

/-- A session that is asked for the tokens of a line prints all of them or none.

* If the line has acceptable tokens, their listings are printed, each on a line of its own, and
  reading the print gives exactly these tokens back.  The reader is the same for all lines.
* If it has none, because it is empty or holds an oversized literal somewhere, nothing is printed,
  the status is one and the fault is reported, behind the log.
* Any other command line that asks for the tokens of this line is answered alike, apart from
  colour.  In particular it does not matter which of them is strict.
* No listing breaks a line, and different tokens have different listings. -/
theorem respond_listings (surroundings : Surroundings) {texts : List String} {line : String}
    {arguments : Arguments} (hasks : AsksTokens texts line arguments) (input : List UInt8) :
    let output := respond surroundings texts input
    let coloured := !arguments.has .noColor && (surroundings.noColor?.getD "").isEmpty
    (∀ tokens, tokenize line = .ok tokens →
      output.status = 0 ∧ readListings? output.printed = some tokens ∧
        linesOf output.printed.toList = tokens.map fun token => token.listing.toList) ∧
    (∀ fault, tokenize line = .error fault →
      output.status = 1 ∧ output.printed = "" ∧
        ∃ log, output.reported = log ++ reportOf coloured fault) ∧
    ((∃ fault, tokenize line = .error fault) ↔
      line = "" ∨ ∃ lexeme ∈ lexemes line.toList, lexeme.token = .oversized) ∧
    (∀ texts' arguments' input', AsksTokens texts' line arguments' →
      arguments'.has .noColor = arguments.has .noColor →
        respond surroundings texts' input' = output) ∧
    (∀ token : Token, ∀ c ∈ Text.lineBreaks, c ∉ token.listing.toList) ∧
    Function.Injective Token.listing := by
  intro output coloured
  have houtput : output = respond surroundings texts input := rfl
  rw [hasks.respond_eq input] at houtput
  refine ⟨?_, ?_, exists_tokenize_eq_error_iff line, ?_, ?_, Token.listing_injective⟩
  · intro tokens htokens
    rw [houtput, htokens]
    exact ⟨rfl, readListings?_listings tokens, linesOf_listings tokens⟩
  · intro fault hfault
    rw [houtput, hfault]
    exact ⟨rfl, rfl, _, rfl⟩
  · intro texts' arguments' input' hasks' hcolor
    rw [houtput, hasks'.respond_eq input', hcolor]
  · intro token c hbreak
    exact token.not_mem_listing_of_mem_lineBreaks hbreak

/-- A line with a quote and a character that cannot be seen, and a line that is refused behind two
tokens. -/
theorem respond_listings_quoted :
    (AsksTokens ["--tokens", "--", "12'\u200b"] "12'\u200b" ⟨[.tokens], some "12'\u200b"⟩ ∧
      readListings? (respond ⟨none, none⟩ ["--tokens", "--", "12'\u200b"] []).printed =
        some [.number 12, .invalid '\'', .invalid '\u200b']) ∧
    (AsksTokens ["--tokens", "--", "1+9223372036854775808"] "1+9223372036854775808"
        ⟨[.tokens], some "1+9223372036854775808"⟩ ∧
      (respond ⟨none, none⟩ ["--tokens", "--", "1+9223372036854775808"] []).printed = "") := by
  have htokens : tokenize "12'\u200b" = .ok [.number 12, .invalid '\'', .invalid '\u200b'] := by
    rw [tokenize_of_ne (by decide)]
    decide
  have hfault : tokenize "1+9223372036854775808" = .error (.literalTooLarge 2) := by
    rw [tokenize_of_ne (by decide)]
    decide
  have hasks := (asksTokens "12'\u200b").1
  have hasks' := (asksTokens "1+9223372036854775808").1
  obtain ⟨hprinted, -⟩ := respond_listings ⟨none, none⟩ hasks []
  obtain ⟨-, hnothing, -⟩ := respond_listings ⟨none, none⟩ hasks' []
  exact ⟨⟨hasks, (hprinted _ htokens).2.1⟩, hasks', (hnothing _ hfault).2.1⟩

end Console

end LineCalculator
