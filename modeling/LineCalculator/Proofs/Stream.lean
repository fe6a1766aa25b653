import LineCalculator.Proofs.Derivation
import LineCalculator.Segmentation

/-!
# The stream of a line

The stream of a line numbers its lexemes and then repeats the end of the line for ever.
This file relates it to the list of the lexemes that are left at some entry: the list is
empty exactly where the stream has come to the end, and a formula is written by entries
of the stream exactly where the tokens that are left begin with its spelling.

It also collects what every token of a line is known for: no lexeme is the end of the
line, and every number is a literal.
-/

namespace LineCalculator.Segmentation

open Evaluation Formula

/-- The lexemes of a line from an entry of its stream on, without the end. -/
def following (line : List Char) (index : Nat) : List Lexeme := (lexemes line).drop index

@[simp] theorem following_zero (line : List Char) : following line 0 = lexemes line := rfl

/-- The lexeme of a piece has the token of its characters. -/
theorem exists_token_of_mem_lexemes {line : List Char} {lexeme : Lexeme}
    (hmem : lexeme ∈ lexemes line) :
    ∃ first ∈ line, ∃ more, lexeme.token = token first more := by
  obtain ⟨piece, hmemPiece, hpiece⟩ := List.mem_filterMap.1 hmem
  cases piece with
  | nil => simp [lexeme?] at hpiece
  | cons entry entries =>
      obtain ⟨first, column⟩ := entry
      have hentry : (first, column) ∈ line.zipIdx := by
        rw [← List.flatten_splitBy (fun before after => before.1.isDigit && after.1.isDigit)
          line.zipIdx]
        exact List.mem_flatten.2 ⟨_, hmemPiece, List.mem_cons_self⟩
      have hfirst : first ∈ line := List.fst_mem_of_mem_zipIdx hentry
      simp only [lexeme?] at hpiece
      split at hpiece
      · simp at hpiece
      · cases hpiece
        exact ⟨first, hfirst, _, rfl⟩

/-- The tokens of a piece: a literal, an operator or an invalid character. -/
theorem token_cases (first : Char) (more : List Char) :
    (∃ n : Int, token first more = .number n ∧ 0 ≤ n ∧ n ≤ greatestInteger) ∨
      token first more = .oversized ∨ (∃ op, token first more = .operator op) ∨
        token first more = .invalid first := by
  unfold token
  split
  · unfold numeral
    split
    · next hfits => exact .inl ⟨_, rfl, Int.natCast_nonneg _, hfits⟩
    · exact .inr (.inl rfl)
  · cases Operator.ofSymbol? first with
    | none => exact .inr (.inr (.inr rfl))
    | some op => exact .inr (.inr (.inl ⟨op, rfl⟩))

theorem token_ne_endOfLine_of_mem {line : List Char} {lexeme : Lexeme}
    (hmem : lexeme ∈ lexemes line) : lexeme.token ≠ .endOfLine := by
  obtain ⟨first, -, more, htoken⟩ := exists_token_of_mem_lexemes hmem
  rw [htoken]
  rcases token_cases first more with ⟨n, h, -⟩ | h | ⟨op, h⟩ | h <;> simp [h]

/-- Numbers in a line are literals: a number is the token of a piece, and of the tokens of
pieces only literals are numbers. -/
theorem literal_of_mem_lexemes {line : List Char} {lexeme : Lexeme} {n : Int}
    (hmem : lexeme ∈ lexemes line) (htoken : lexeme.token = .number n) :
    0 ≤ n ∧ n ≤ greatestInteger := by
  obtain ⟨first, -, more, hpiece⟩ := exists_token_of_mem_lexemes hmem
  rw [htoken] at hpiece
  rcases token_cases first more with ⟨m, h, hm⟩ | h | ⟨op, h⟩ | h <;> rw [h] at hpiece
  · cases hpiece
    exact hm
  all_goals cases hpiece

/-- The character of an operator stands in the line. -/
theorem symbol_mem_of_mem_lexemes {line : List Char} {lexeme : Lexeme} {op : Operator}
    (hmem : lexeme ∈ lexemes line) (htoken : lexeme.token = .operator op) : op.symbol ∈ line := by
  obtain ⟨first, hfirst, more, hpiece⟩ := exists_token_of_mem_lexemes hmem
  rw [htoken, token, numeral] at hpiece
  split at hpiece
  · split at hpiece <;> cases hpiece
  · cases hsymbol : Operator.ofSymbol? first with
    | none =>
        rw [hsymbol] at hpiece
        cases hpiece
    | some op' =>
        rw [hsymbol] at hpiece
        cases hpiece
        rw [Operator.symbol_of_ofSymbol?_eq_some hsymbol]
        exact hfirst

/-- At an entry of the stream either nothing is left and the end is there, or the lexeme
there is the first of those that are left. -/
theorem following_cases (line : List Char) (index : Nat) :
    (following line index = [] ∧ stream line index = ⟨.endOfLine, line.length⟩) ∨
      (following line index = stream line index :: following line (index + 1) ∧
        (stream line index).token ≠ .endOfLine) := by
  unfold following stream
  by_cases hindex : index < (lexemes line).length
  · right
    have hentry : (lexemes line)[index]? = some (lexemes line)[index] :=
      List.getElem?_eq_getElem hindex
    rw [hentry, Option.getD_some]
    exact ⟨List.drop_eq_getElem_cons hindex, token_ne_endOfLine_of_mem (List.getElem_mem hindex)⟩
  · left
    have hbeyond : (lexemes line).length ≤ index := Nat.le_of_not_lt hindex
    rw [List.getElem?_eq_none hbeyond]
    exact ⟨List.drop_eq_nil_of_le hbeyond, rfl⟩

theorem following_of_entry {line : List Char} {index : Nat} {token : Token} {column : Column}
    (hentry : stream line index = ⟨token, column⟩) (hmore : token ≠ .endOfLine) :
    following line index = ⟨token, column⟩ :: following line (index + 1) := by
  rcases following_cases line index with ⟨-, hend⟩ | ⟨hcons, -⟩
  · rw [hentry] at hend
    cases hend
    exact absurd rfl hmore
  · rw [hcons, hentry]

theorem stream_of_following_cons {line : List Char} {index : Nat} {lexeme : Lexeme}
    {more : List Lexeme} (hfollowing : following line index = lexeme :: more) :
    stream line index = lexeme ∧ following line (index + 1) = more := by
  rcases following_cases line index with ⟨hnil, -⟩ | ⟨hcons, -⟩
  · rw [hnil] at hfollowing
    cases hfollowing
  · rw [hcons] at hfollowing
    exact List.cons.inj hfollowing

/-- The end stands in the stream exactly where no lexeme is left. -/
theorem following_eq_nil_iff {line : List Char} {index : Nat} :
    following line index = [] ↔ (stream line index).token = .endOfLine := by
  rcases following_cases line index with ⟨hnil, hend⟩ | ⟨hcons, htoken⟩
  · simp [hnil, hend]
  · simp [hcons, htoken]

/-- An entry of the stream is a lexeme of the line or its end. -/
theorem stream_mem_or_eq_end (line : List Char) (index : Nat) :
    stream line index ∈ lexemes line ∨ stream line index = ⟨.endOfLine, line.length⟩ := by
  rcases following_cases line index with ⟨-, hend⟩ | ⟨hcons, -⟩
  · exact .inr hend
  · left
    apply List.mem_of_mem_drop (i := index)
    rw [← following, hcons]
    exact List.mem_cons_self

/-- Numbers in the stream are literals. -/
theorem literals_stream (line : List Char) : Literals (stream line) := by
  intro index n htoken
  rcases stream_mem_or_eq_end line index with hmem | hend
  · exact literal_of_mem_lexemes hmem htoken
  · rw [hend] at htoken
    cases htoken

/-- The tokens of the lexemes that are left at an entry. -/
def tokensFrom (line : List Char) (index : Nat) : List Token :=
  (following line index).map Lexeme.token

theorem tokensFrom_of_token {line : List Char} {index : Nat} {token : Token}
    (htoken : (stream line index).token = token) (hmore : token ≠ .endOfLine) :
    tokensFrom line index = token :: tokensFrom line (index + 1) := by
  have hentry := Lexeme.eq_of_token htoken
  unfold tokensFrom
  rw [following_of_entry hentry hmore, List.map_cons]

theorem token_of_tokensFrom_cons {line : List Char} {index : Nat} {token : Token}
    {more : List Token} (htokens : tokensFrom line index = token :: more) :
    (stream line index).token = token ∧ tokensFrom line (index + 1) = more := by
  obtain ⟨lexeme, lexemes, hfollowing, rfl, rfl⟩ := List.map_eq_cons_iff.1 htokens
  obtain ⟨hstream, hmore⟩ := stream_of_following_cons hfollowing
  exact ⟨by rw [hstream], by rw [tokensFrom, hmore]⟩

/-- Entries that write a formula hold its spelling. -/
theorem tokensFrom_of_writtenBy {line : List Char} {formula : Formula} {start stop : Nat}
    (hwritten : formula.WrittenBy (stream line) start stop) :
    tokensFrom line start = formula.spelling ++ tokensFrom line stop := by
  induction formula generalizing start stop with
  | number n =>
      obtain ⟨htoken, rfl⟩ := hwritten
      exact tokensFrom_of_token htoken Token.noConfusion
  | combined op lhs rhs ihlhs ihrhs =>
      obtain ⟨middle, hlhs, htoken, hrhs⟩ := hwritten
      rw [ihlhs hlhs, tokensFrom_of_token htoken Token.noConfusion, ihrhs hrhs, spelling]
      simp

/-- A spelling at the front of the tokens that are left is written by entries. -/
theorem exists_writtenBy {line : List Char} {formula : Formula} {start : Nat} {rest : List Token}
    (htokens : tokensFrom line start = formula.spelling ++ rest) :
    ∃ stop, formula.WrittenBy (stream line) start stop ∧ tokensFrom line stop = rest := by
  induction formula generalizing start rest with
  | number n =>
      obtain ⟨htoken, hrest⟩ := token_of_tokensFrom_cons htokens
      exact ⟨start + 1, ⟨htoken, rfl⟩, hrest⟩
  | combined op lhs rhs ihlhs ihrhs =>
      rw [spelling, List.append_assoc, List.cons_append] at htokens
      obtain ⟨middle, hlhs, hmiddle⟩ := ihlhs htokens
      obtain ⟨htoken, hbehind⟩ := token_of_tokensFrom_cons hmiddle
      obtain ⟨stop, hrhs, hstop⟩ := ihrhs hbehind
      exact ⟨stop, ⟨middle, hlhs, htoken, hrhs⟩, hstop⟩

end LineCalculator.Segmentation
