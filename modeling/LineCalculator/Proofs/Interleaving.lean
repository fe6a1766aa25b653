import LineCalculator.Proofs.Acceptance
import LineCalculator.Proofs.Stream
import LineCalculator.Scanner.Conversation

/-!
# Interleaved reading

A scanner can be read in three ways: one lexeme at a time, one acceptable token at a time
and all acceptable tokens at once.  The first way knows nothing of the end of the sequence
of acceptable tokens, and the other two stop there for good.

However these ways are mixed, all of them move one cursor through the stream of the line.
A cursor has the number of the next entry, the flag that the sequence is over and the start
of the last entry, and it is read without any text.  To read all acceptable tokens is to
ask for the next one again and again, up to the first answer that is no token.

Main statement: `converse_cursor`.  A single request is served alike by a scanner and by
the cursor that shows its place, and leaves them alike; a conversation follows by induction.
-/

namespace LineCalculator

open Segmentation

/-- A place in the stream of a line. -/
structure Cursor where
  /-- The number of the entry that is read next. -/
  index : Nat
  /-- The sequence of acceptable tokens is over. -/
  finished : Bool
  /-- The column at which the entry read last starts. -/
  start : Column

namespace Cursor

variable (line : List Char)

/-- The place before anything is read. -/
def first : Cursor := ⟨0, false, 0⟩

/-- Read one entry, whatever it is and whether or not the sequence is over. -/
def read (cursor : Cursor) : Lexeme × Cursor :=
  let lexeme := stream line cursor.index
  (lexeme, { cursor with index := cursor.index + 1, start := lexeme.column })

/-- Read one entry as an acceptable token, unless the sequence is over. -/
def next? (cursor : Cursor) : Option (Except Fault Token) × Cursor :=
  if cursor.finished then (none, cursor)
  else
    match cursor.read line with
    | (⟨.endOfLine, _⟩, behind) => (none, { behind with finished := true })
    | (⟨.oversized, column⟩, behind) =>
        (some (.error (.literalTooLarge column)), { behind with finished := true })
    | (⟨token, _⟩, behind) => (some (.ok token), behind)

variable {line} {cursor : Cursor}

theorem next?_of_finished (hfinished : cursor.finished = true) :
    cursor.next? line = (none, cursor) := by
  rw [next?, if_pos hfinished]

theorem next?_of_endOfLine (hopen : cursor.finished = false)
    (htoken : (stream line cursor.index).token = .endOfLine) :
    cursor.next? line = (none, { (cursor.read line).2 with finished := true }) := by
  rw [next?, if_neg (by simp [hopen]), read, Lexeme.eq_of_token htoken]

theorem next?_of_oversized (hopen : cursor.finished = false)
    (htoken : (stream line cursor.index).token = .oversized) :
    cursor.next? line =
      (some (.error (.literalTooLarge (stream line cursor.index).column)),
        { (cursor.read line).2 with finished := true }) := by
  rw [next?, if_neg (by simp [hopen]), read, Lexeme.eq_of_token htoken]

/-- Any other token is acceptable. -/
theorem next?_of_not_closes (hopen : cursor.finished = false)
    (htoken : Scanner.closes (stream line cursor.index).token = false) :
    cursor.next? line =
      (some (.ok (stream line cursor.index).token), (cursor.read line).2) := by
  rw [next?, if_neg (by simp [hopen]), read]
  generalize stream line cursor.index = lexeme at htoken
  obtain ⟨token, column⟩ := lexeme
  cases token with
  | number n => rfl
  | operator op => rfl
  | invalid c => rfl
  | oversized => cases htoken
  | endOfLine => cases htoken

/-- An acceptable token brings the end of the line nearer. -/
theorem length_following_lt {behind : Cursor} {token : Token}
    (hnext : cursor.next? line = (some (.ok token), behind)) :
    (following line behind.index).length < (following line cursor.index).length := by
  cases hfinished : cursor.finished with
  | true =>
      rw [next?_of_finished hfinished] at hnext
      cases hnext
  | false =>
      rcases Scanner.closes_cases (stream line cursor.index).token with htoken | htoken | htoken
      · rw [next?_of_endOfLine hfinished htoken] at hnext
        cases hnext
      · rw [next?_of_oversized hfinished htoken] at hnext
        cases hnext
      · rw [next?_of_not_closes hfinished htoken] at hnext
        cases hnext
        -- What is read is a lexeme that was left.
        rcases following_cases line cursor.index with ⟨-, hend⟩ | ⟨hcons, -⟩
        · rw [hend] at htoken
          cases htoken
        · rw [hcons]
          exact Nat.lt_succ_self _

/-- Read the next acceptable token again and again, up to the first answer that is none. -/
def collect (line : List Char) (cursor : Cursor) : Except Fault (List Token) × Cursor :=
  match _hnext : cursor.next? line with
  | (none, behind) => (.ok [], behind)
  | (some (.error fault), behind) => (.error fault, behind)
  | (some (.ok token), behind) =>
      let (tokens, last) := behind.collect line
      (tokens.map (token :: ·), last)
termination_by (following line cursor.index).length
decreasing_by exact length_following_lt _hnext

theorem collect_of_none {behind : Cursor} (hnext : cursor.next? line = (none, behind)) :
    cursor.collect line = (.ok [], behind) := by
  rw [collect]
  split <;> simp_all

theorem collect_of_error {fault : Fault} {behind : Cursor}
    (hnext : cursor.next? line = (some (.error fault), behind)) :
    cursor.collect line = (.error fault, behind) := by
  rw [collect]
  split <;> simp_all

theorem collect_of_ok {token : Token} {behind : Cursor}
    (hnext : cursor.next? line = (some (.ok token), behind)) :
    cursor.collect line =
      ((behind.collect line).1.map (token :: ·), (behind.collect line).2) := by
  rw [collect]
  split <;> simp_all

/-- Serve one request. -/
def serve (line : List Char) (cursor : Cursor) : Scanner.Request → Scanner.Reply × Cursor
  | .lexeme => (.lexeme (cursor.read line).1, (cursor.read line).2)
  | .token => (.token (cursor.next? line).1, (cursor.next? line).2)
  | .tokens => (.tokens (cursor.collect line).1, (cursor.collect line).2)

/-- The replies to requests, each with the place that it leaves. -/
def converse (line : List Char) : List Scanner.Request → Cursor → List (Scanner.Reply × Cursor)
  | [], _ => []
  | request :: more, cursor =>
      cursor.serve line request :: converse line more (cursor.serve line request).2

end Cursor

namespace Scanner

/-- A cursor shows the place of a scanner: the scanner gives the entries from the cursor's
number on, and agrees on the flag and on the start of the entry read last. -/
structure ShownBy (line : List Char) (s : Scanner) (cursor : Cursor) : Prop where
  scan_eq : ∀ count, (s.after count).scan.1 = stream line (cursor.index + count)
  finished_eq : s.finished = cursor.finished
  start_eq : s.start = cursor.start

variable {line : List Char} {s : Scanner} {cursor : Cursor}

theorem ShownBy.scan (hshown : s.ShownBy line cursor) :
    s.scan.1 = (cursor.read line).1 ∧ s.scan.2.ShownBy line (cursor.read line).2 := by
  have hlexeme : s.scan.1 = stream line cursor.index := hshown.scan_eq 0
  refine ⟨hlexeme, ?_, hshown.finished_eq, congrArg Lexeme.column hlexeme⟩
  intro count
  have hbehind := hshown.scan_eq (count + 1)
  rwa [after_succ, Nat.add_comm count 1, ← Nat.add_assoc] at hbehind

/-- The flag is none of the scanner's business when it reads single lexemes. -/
theorem scan_after_finish (s : Scanner) (count : Nat) :
    (({ s with finished := true } : Scanner).after count).scan.1 = (s.after count).scan.1 := by
  induction count generalizing s with
  | zero => rfl
  | succ count ih => exact ih s.scan.2

theorem ShownBy.finish (hshown : s.ShownBy line cursor) :
    ({ s with finished := true } : Scanner).ShownBy line { cursor with finished := true } := by
  refine ⟨?_, rfl, hshown.start_eq⟩
  intro count
  rw [scan_after_finish]
  exact hshown.scan_eq count

/-- The next acceptable token. -/
theorem ShownBy.next? (hshown : s.ShownBy line cursor) :
    s.next?.1 = (cursor.next? line).1 ∧ s.next?.2.ShownBy line (cursor.next? line).2 := by
  obtain ⟨hlexeme, hbehind⟩ := hshown.scan
  have hread : cursor.read line = (s.scan.1, (cursor.read line).2) := Prod.ext hlexeme.symm rfl
  unfold Scanner.next? Cursor.next?
  rw [hshown.finished_eq]
  by_cases hfinished : cursor.finished = true
  · rw [if_pos hfinished, if_pos hfinished]
    exact ⟨rfl, hshown⟩
  · rw [if_neg hfinished, if_neg hfinished, hread]
    dsimp only
    cases htoken : s.scan.1 with
    | mk token column =>
      cases token with
      | number n => exact ⟨rfl, hbehind⟩
      | operator op => exact ⟨rfl, hbehind⟩
      | invalid c => exact ⟨rfl, hbehind⟩
      | oversized => exact ⟨rfl, hbehind.finish⟩
      | endOfLine => exact ⟨rfl, hbehind.finish⟩

/-- Gathering lexemes up to the one that closes the sequence is reading acceptable tokens
one by one.  The induction is on the text that is left. -/
theorem ShownBy.gather (hshown : s.ShownBy line cursor) (hopen : cursor.finished = false) :
    accepted s.gather.1 = (cursor.collect line).1 ∧
      ({ s.gather.2 with finished := true } : Scanner).ShownBy line (cursor.collect line).2 := by
  induction hsize : s.rest.length using Nat.strongRecOn generalizing s cursor with
  | _ size ih =>
      subst hsize
      obtain ⟨hlexeme, hbehind⟩ := hshown.scan
      have hentry : s.scan.1 = stream line cursor.index := hlexeme
      rcases closes_cases s.scan.1.token with htoken | htoken | htoken
      · have hcloses : closes s.scan.1.token = true := by rw [htoken]; rfl
        rw [gather_of_closes hcloses]
        rw [hentry] at htoken ⊢
        rw [Cursor.collect_of_none (Cursor.next?_of_endOfLine hopen htoken),
          Lexeme.eq_of_token htoken]
        exact ⟨rfl, hbehind.finish⟩
      · have hcloses : closes s.scan.1.token = true := by rw [htoken]; rfl
        rw [gather_of_closes hcloses]
        rw [hentry] at htoken ⊢
        rw [Cursor.collect_of_error (Cursor.next?_of_oversized hopen htoken),
          Lexeme.eq_of_token htoken]
        exact ⟨rfl, hbehind.finish⟩
      · have hmore : s.scan.1.token ≠ .endOfLine := by
          intro hend
          rw [hend] at htoken
          cases htoken
        obtain ⟨haccepted, hlast⟩ := ih _ (scan_rest_length_lt hmore) hbehind hopen rfl
        rw [gather_of_not_closes htoken, accepted_of_not_closes htoken, haccepted]
        rw [hentry] at htoken ⊢
        rw [Cursor.collect_of_ok (Cursor.next?_of_not_closes hopen htoken)]
        exact ⟨rfl, hlast⟩

/-- All acceptable tokens. -/
theorem ShownBy.collect (hshown : s.ShownBy line cursor) :
    s.collect.1 = (cursor.collect line).1 ∧ s.collect.2.ShownBy line (cursor.collect line).2 := by
  cases hfinished : cursor.finished with
  | true =>
      have hscanner : s.finished = true := hshown.finished_eq.trans hfinished
      rw [Cursor.collect_of_none (Cursor.next?_of_finished hfinished), Scanner.collect,
        if_pos hscanner]
      exact ⟨rfl, hshown⟩
  | false =>
      have hscanner : ¬ s.finished = true := by simp [hshown.finished_eq, hfinished]
      rw [Scanner.collect, if_neg hscanner]
      exact hshown.gather hfinished

/-- A request is served alike by a scanner and by the cursor that shows its place, and it
leaves them alike. -/
theorem ShownBy.serve (hshown : s.ShownBy line cursor) (request : Request) :
    (s.serve request).1 = (cursor.serve line request).1 ∧
      (s.serve request).2.ShownBy line (cursor.serve line request).2 := by
  cases request with
  | lexeme =>
      obtain ⟨hreply, hbehind⟩ := hshown.scan
      exact ⟨congrArg Reply.lexeme hreply, hbehind⟩
  | token =>
      obtain ⟨hreply, hbehind⟩ := hshown.next?
      exact ⟨congrArg Reply.token hreply, hbehind⟩
  | tokens =>
      obtain ⟨hreply, hbehind⟩ := hshown.collect
      exact ⟨congrArg Reply.tokens hreply, hbehind⟩

/-- A conversation with a scanner and the conversation with the cursor that shows its place
give the same replies, and after each of them the cursor shows the place of the scanner. -/
theorem ShownBy.converse (hshown : s.ShownBy line cursor) (requests : List Request) :
    List.Forall₂ (fun answer shown => answer.1 = shown.1 ∧ answer.2.ShownBy line shown.2)
      (Scanner.converse requests s) (cursor.converse line requests) := by
  induction requests generalizing s cursor with
  | nil => exact .nil
  | cons request requests ih =>
      have hserved := hshown.serve request
      exact .cons hserved (ih hserved.2)

/-- A fresh scanner stands before the first entry. -/
theorem shownBy_ofString (line : String) : (ofString line).ShownBy line.toList .first := by
  refine ⟨?_, rfl, rfl⟩
  intro count
  rw [scan_after_ofString]
  show stream line.toList count = stream line.toList (0 + count)
  rw [Nat.zero_add]

end Scanner

/-- However the ways of reading a fresh scanner are mixed, the replies are those of one
cursor over the stream of the line.  After each request the scanner has the cursor's flag,
reports the start of the cursor's last entry and goes on with the cursor's next entry.

So nothing is lost, read twice or read out of order, and single lexemes can be read behind
the end of the sequence of acceptable tokens: reading them neither asks for the flag nor
sets it, not even at the end of the line. -/
theorem converse_cursor (line : String) (requests : List Scanner.Request) :
    (Scanner.ofString line).ShownBy line.toList .first ∧
      List.Forall₂ (fun answer shown => answer.1 = shown.1 ∧ answer.2.ShownBy line.toList shown.2)
        (Scanner.converse requests (.ofString line))
        (Cursor.first.converse line.toList requests) :=
  ⟨Scanner.shownBy_ofString line, (Scanner.shownBy_ofString line).converse requests⟩

end LineCalculator
