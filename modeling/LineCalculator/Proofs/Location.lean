import LineCalculator.Proofs.Displacement
import LineCalculator.Proofs.Interleaving
import LineCalculator.Proofs.Position
import LineCalculator.Proofs.Spans

/-!
# Location

A conversation with an evaluation goes on as if it were the first one.  Whatever has been read
or skipped, asked for or refused before, the current lexeme and the text from there on decide
about all that follows: a fresh evaluation of that text alone gives the same, apart from columns.
These are counted from the column of the current lexeme there.

Two states stand abreast if they stand at related places of two sequences of lexemes.  Every
request keeps them abreast and gives the same in both, which follows from the courses it takes;
a conversation follows by induction on its requests.

Main statement: `alike_reached`.
-/

namespace LineCalculator

namespace Evaluation

variable {moved : Column → Column → Prop} {entry entry' : Nat → Lexeme}
  {place : Nat → Nat → Prop} {s s' : Lookahead}

/-- Two states stand at related places of two sequences. -/
def Abreast (entry entry' : Nat → Lexeme) (place : Nat → Nat → Prop) (s s' : Lookahead) : Prop :=
  ∃ index index', s.At entry index ∧ s'.At entry' index' ∧ place index index'

/-- A computation gives the same in two states that stand abreast, apart from a column, and
leaves them abreast. -/
def Accords (moved : Column → Column → Prop) (entry entry' : Nat → Lexeme)
    (place : Nat → Nat → Prop) {α : Type} (x : Evaluation α) : Prop :=
  ∀ ⦃s s'⦄, Abreast entry entry' place s s' →
    Displaced moved (outcome (x.run s)) (outcome (x.run s')) ∧
      Abreast entry entry' place (stateAfter (x.run s)) (stateAfter (x.run s'))

theorem Abreast.record (habreast : Abreast entry entry' place s s') (event event' : Event) :
    Abreast entry entry' place (s.record event) (s'.record event') := by
  obtain ⟨index, index', hat, hat', hplace⟩ := habreast
  exact ⟨_, _, hat.record event, hat'.record event', hplace⟩

/-- Both of two results with corresponding outcomes are values, or both are faults. -/
theorem displaced_outcome_cases {α : Type} {result result' : EStateM.Result Fault Lookahead α}
    (houtcome : Displaced moved (outcome result) (outcome result')) :
    (∃ a s s', result = .ok a s ∧ result' = .ok a s') ∨
      ∃ fault fault' s s', result = .error fault s ∧ result' = .error fault' s' ∧
        fault.Displaced moved fault' := by
  cases result with
  | ok a s =>
      have hvalue := houtcome.eq_ok
      cases result' with
      | ok a' s' =>
          cases hvalue
          exact .inl ⟨a, s, s', rfl, rfl⟩
      | error fault' s' => cases hvalue
  | error fault s =>
      obtain ⟨fault', hfault, hmoved⟩ := houtcome.exists_error
      cases result' with
      | ok a' s' => cases hfault
      | error _ s' =>
          cases hfault
          exact .inr ⟨fault, fault', s, s', rfl, rfl, hmoved⟩

theorem Accords.map {α β : Type} (f : α → β) {x : Evaluation α}
    (hx : Accords moved entry entry' place x) : Accords moved entry entry' place (f <$> x) := by
  intro s s' habreast
  obtain ⟨houtcome, hafter⟩ := hx habreast
  rw [run_map, run_map]
  rcases displaced_outcome_cases houtcome with
    ⟨a, t, t', hrun, hrun'⟩ | ⟨fault, fault', t, t', hrun, hrun', hmoved⟩ <;>
    rw [hrun, hrun'] at hafter ⊢
  · exact ⟨.ok (f a), hafter⟩
  · exact ⟨.error hmoved, hafter⟩

/-- A rule accords if its courses can be taken in the other sequence. -/
theorem Takes.accords {x : Evaluation Int} {course course' : Course} (hx : Takes entry x course)
    (hx' : Takes entry' x course') (hfunctional : Functional course')
    (hcarries : ∀ limit, Carries moved limit place place course course') :
    Accords moved entry entry' place x := by
  rintro s s' ⟨start, start', hat, hat', hplace⟩
  obtain ⟨events, stop, hcourse, hstop, -⟩ := hx s start hat
  obtain ⟨result', events', stop', hcourse', hresult, hplace'⟩ :=
    hcarries stop hcourse (Nat.le_refl stop) hplace
  obtain ⟨hsame, hstop'⟩ := hx'.eq_of_course hfunctional hat' hcourse'
  rw [hsame]
  exact ⟨hresult, stop, stop', hstop, hstop', hplace'⟩

/-- What holds of every rule and every expectation, and of a computation with any reply that holds
its result, holds of every request. -/
theorem Request.forall_serve {property : (α : Type) → Evaluation α → Prop}
    (hmap : ∀ {α β : Type} (f : α → β) {x : Evaluation α}, property α x → property β (f <$> x))
    (hfactor : property Int Evaluation.factor) (hterm : property Int Evaluation.term)
    (hexpression : property Int Evaluation.expression)
    (htotal : ∀ mode, property Int (Evaluation.total mode))
    (hexpect : ∀ category, property Token (Evaluation.expect category)) (request : Request) :
    property Reply request.serve := by
  cases request with
  | factor => exact hmap Reply.value hfactor
  | term => exact hmap Reply.value hterm
  | expression => exact hmap Reply.value hexpression
  | total mode => exact hmap Reply.value (htotal mode)
  | expect category => exact hmap Reply.token (hexpect category)

/-- The same result and the same current lexeme, apart from columns. -/
structure Echoed (moved : Column → Column → Prop)
    (answer answer' : Except Fault Reply × Lookahead) : Prop where
  result : Displaced moved answer.1 answer'.1
  current : answer.2.current.Displaced moved answer'.2.current

section

/-! Entries that correspond at all places. -/

variable (hcorresponds : ∀ limit, Corresponds moved entry entry' limit place place)

include hcorresponds

theorem Abreast.displaced (habreast : Abreast entry entry' place s s') :
    s.current.Displaced moved s'.current := by
  obtain ⟨index, index', hat, hat', hplace⟩ := habreast
  rw [hat.current_eq, hat'.current_eq]
  exact (hcorresponds index).displaced index index' hplace (Nat.le_refl index)

theorem Abreast.advance (habreast : Abreast entry entry' place s s') :
    Abreast entry entry' place s.advance s'.advance := by
  obtain ⟨index, index', hat, hat', hplace⟩ := habreast
  exact ⟨_, _, hat.advance, hat'.advance,
    (hcorresponds (index + 1)).next index index' hplace (Nat.lt_succ_self index)⟩

theorem accords_expression : Accords moved entry entry' place expression :=
  takes_expression.accords takes_expression functional_expressionCourse fun limit =>
    carries_expressionCourse (hcorresponds limit)

theorem accords_expect (category : Category) :
    Accords moved entry entry' place (expect category) := by
  intro s s' habreast
  have hcurrent := habreast.displaced hcorresponds
  rw [run_expect, run_expect, hcurrent.token_eq]
  split
  · exact ⟨.ok _, habreast.advance hcorresponds⟩
  · exact ⟨.error (.unexpected _ _ hcurrent.column_moved), habreast⟩

theorem accords_total (mode : Mode) : Accords moved entry entry' place (total mode) := by
  intro s s' habreast
  obtain ⟨houtcome, hafter⟩ := accords_expression hcorresponds habreast
  cases mode with
  | lenient =>
      rw [run_total_lenient, run_total_lenient]
      rcases displaced_outcome_cases houtcome with
        ⟨n, t, t', hrun, hrun'⟩ | ⟨fault, fault', t, t', hrun, hrun', hmoved⟩ <;>
        rw [hrun, hrun'] at hafter ⊢
      · exact ⟨.ok n, hafter.record _ _⟩
      · exact ⟨.error hmoved, hafter⟩
  | strict =>
      rw [run_total_strict, run_total_strict]
      rcases displaced_outcome_cases houtcome with
        ⟨n, t, t', hrun, hrun'⟩ | ⟨fault, fault', t, t', hrun, hrun', hmoved⟩ <;>
        rw [hrun, hrun'] at hafter ⊢
      · have hat : Abreast entry entry' place t t' := hafter
        have hcurrent := hat.displaced hcorresponds
        dsimp only
        rw [hcurrent.token_eq]
        split
        · exact ⟨.ok n, (hat.advance hcorresponds).record _ _⟩
        · exact ⟨.error (.unexpected _ _ hcurrent.column_moved), hat⟩
      · exact ⟨.error hmoved, hafter⟩

/-- Every request accords. -/
theorem accords_serve (request : Request) : Accords moved entry entry' place request.serve := by
  refine Request.forall_serve Accords.map ?_ ?_ ?_ ?_ ?_ request
  · exact takes_factor.accords takes_factor functional_factorCourse fun limit =>
      carries_factorCourse (hcorresponds limit)
  · exact takes_term.accords takes_term functional_termCourse fun limit =>
      carries_termCourse (hcorresponds limit)
  · exact accords_expression hcorresponds
  · exact accords_total hcorresponds
  · exact accords_expect hcorresponds

/-- States that stand abreast have the same conversations, apart from columns. -/
theorem Abreast.converse (habreast : Abreast entry entry' place s s') (requests : List Request) :
    List.Forall₂ (Echoed moved) (Evaluation.converse requests s)
      (Evaluation.converse requests s') := by
  induction requests generalizing s s' with
  | nil => exact .nil
  | cons request requests ih =>
      obtain ⟨houtcome, hafter⟩ := accords_serve hcorresponds request habreast
      exact .cons ⟨houtcome, hafter.displaced hcorresponds⟩ (ih hafter)

end

/-- The state that requests leave. -/
def leftBy (requests : List Request) (s : Lookahead) : Lookahead :=
  requests.foldl (fun s request => stateAfter (request.serve.run s)) s

/-- Requests leave the state at an entry of the stream. -/
theorem exists_at_leftBy (hliterals : Literals entry) (requests : List Request) {start : Nat}
    (hat : s.At entry start) : ∃ stop, (leftBy requests s).At entry stop := by
  induction requests generalizing s start with
  | nil => exact ⟨start, hat⟩
  | cons request requests ih =>
      obtain ⟨stop, -, hserved⟩ := exists_served hliterals hat request
      exact ih hserved.at_stop

end Evaluation

namespace Scanner

/-- The scanner that requests leave. -/
def leftBy (requests : List Request) (s : Scanner) : Scanner :=
  requests.foldl (fun s request => (s.serve request).2) s

/-- Requests leave a scanner at a place of the line. -/
theorem ShownBy.leftBy {line : List Char} {s : Scanner} {cursor : Cursor}
    (hshown : s.ShownBy line cursor) (requests : List Request) :
    ∃ cursor', (Scanner.leftBy requests s).ShownBy line cursor' := by
  induction requests generalizing s cursor with
  | nil => exact ⟨cursor, hshown⟩
  | cons request requests ih => exact ih (hshown.serve request).2

end Scanner

open Evaluation Scanner Segmentation

/-- A state that can be reached on a line: some of it is read with the scanner, then an evaluation
is asked for something. -/
def reached (line : String) (reading : List Scanner.Request) (asked : List Evaluation.Request) :
    Lookahead :=
  Evaluation.leftBy asked (.ofScanner (Scanner.leftBy reading (.ofString line)))

/-- A fresh state over a line without the text in front of a column. -/
def freshFrom (line : String) (column : Column) : Lookahead :=
  .ofScanner (.ofString (String.ofList (line.toList.drop column)))

/-- The second of two places is further on by a distance. -/
def Later (distance place place' : Nat) : Prop := place' = place + distance

/-- Two states from which every conversation is the same, apart from columns.  In the second one
they are further on by a distance, also that of the current lexeme. -/
structure Alike (distance : Nat) (s s' : Lookahead) : Prop where
  current : s.current.Displaced (Later distance) s'.current
  converse : ∀ requests, List.Forall₂ (Echoed (Later distance)) (Evaluation.converse requests s)
    (Evaluation.converse requests s')

namespace Segmentation

/-- The lexemes that are left at an entry are those of the text from its column on, which only
blanks part from the place of a scanner in front of it. -/
theorem following_eq_lexemesFrom (line : String) (index : Nat) :
    following line.toList index =
      lexemesFrom (stream line.toList index).column
        (line.toList.drop (stream line.toList index).column) := by
  obtain ⟨before, hstands⟩ := exists_standsBehind line index
  rw [← ahead_after_ofString, ← scan_after_ofString]
  generalize (ofString line).after index = s at hstands
  have htext : line.toList.drop (s.column + (s.rest.takeWhile Text.isBlank).length) =
      s.rest.dropWhile Text.isBlank := by
    have hskipped : (s.rest.takeWhile Text.isBlank ++ s.rest.dropWhile Text.isBlank).drop
        (s.rest.takeWhile Text.isBlank).length = s.rest.dropWhile Text.isBlank := List.drop_left
    rw [List.takeWhile_append_dropWhile] at hskipped
    rw [hstands.line_eq, ← hstands.length_eq, ← List.drop_drop, List.drop_left, hskipped]
  calc
    s.ahead = lexemesFrom (s.column + (s.rest.takeWhile Text.isBlank).length)
        (s.rest.dropWhile Text.isBlank) := lexemesFrom_skip s.column s.rest
    _ = _ := by
        rw [← htext]
        rfl

/-- No lexeme stands behind the end of the line, nor does the end itself. -/
theorem column_le_length (line : String) (index : Nat) :
    (stream line.toList index).column ≤ line.toList.length := by
  have hending : ((ofString line).after index).ending = line.toList.length := by
    rw [ending_after]
    exact Nat.zero_add _
  rw [← scan_after_ofString, ← hending]
  generalize (ofString line).after index = s
  exact Nat.add_le_add_left (List.takeWhile_prefix Text.isBlank).length_le s.column

/-- Text that stands further on has the same lexemes, further on by as much. -/
theorem later_lexemesFrom (column : Column) (text : List Char) :
    List.Forall₂ (Lexeme.Displaced (Later column)) (lexemes text) (lexemesFrom column text) := by
  rw [← lexemesFrom_zero]
  apply displaced_lexemesFrom
  intro offset _
  show _ + offset = 0 + offset + _
  omega

/-- If the lexemes that are left at an entry are those of another text, apart from columns, then the
rest of the stream is the stream of that text. -/
theorem corresponds_of_following {moved : Column → Column → Prop} {line text : List Char}
    {index : Nat}
    (hlexemes : List.Forall₂ (Lexeme.Displaced moved) (lexemes text) (following line index))
    (hend : moved text.length line.length) (limit : Nat) :
    Corresponds moved (stream text) (stream line) limit (Later index) (Later index) where
  displaced := by
    rintro offset _ rfl -
    have hrest : stream line (offset + index) =
        (following line index)[offset]?.getD ⟨.endOfLine, line.length⟩ := by
      rw [stream, following, List.getElem?_drop, Nat.add_comm]
    have hlast : (⟨.endOfLine, text.length⟩ : Lexeme).Displaced moved ⟨.endOfLine, line.length⟩ :=
      ⟨rfl, hend⟩
    rw [hrest]
    exact displaced_getD hlexemes hlast offset
  next := by
    rintro offset _ rfl -
    exact Nat.add_right_comm offset index 1

/-- The stream of the text from an entry on is the rest of the stream, apart from columns. -/
theorem corresponds_drop (line : String) (index limit : Nat) :
    Corresponds (Later (stream line.toList index).column)
      (stream (line.toList.drop (stream line.toList index).column)) (stream line.toList) limit
      (Later index) (Later index) := by
  apply corresponds_of_following
  · rw [following_eq_lexemesFrom]
    exact later_lexemesFrom _ _
  · have hle := column_le_length line index
    show line.toList.length = (line.toList.drop _).length + _
    rw [List.length_drop, Nat.sub_add_cancel hle]

end Segmentation

/-- A state that can be reached stands at an entry of the stream of its line. -/
theorem exists_at_reached (line : String) (reading : List Scanner.Request)
    (asked : List Evaluation.Request) :
    ∃ index, (reached line reading asked).At (stream line.toList) index := by
  obtain ⟨cursor, hshown⟩ := (shownBy_ofString line).leftBy reading
  exact exists_at_leftBy (literals_stream _) asked (Lookahead.at_refill #[] hshown.scan_eq)

/-- A fresh state over the text from an entry on and any state that stands at that entry. -/
theorem abreast_freshFrom {line : String} {index : Nat} {s : Lookahead}
    (hat : s.At (stream line.toList) index) :
    Abreast (stream (line.toList.drop (stream line.toList index).column)) (stream line.toList)
      (Later index) (freshFrom line (stream line.toList index).column) s := by
  have hfresh := Lookahead.at_ofScanner
    (String.ofList (line.toList.drop (stream line.toList index).column)) 0
  rw [String.toList_ofList] at hfresh
  exact ⟨0, index, hfresh, hat, (Nat.zero_add index).symm⟩

/-- Whatever has been read of a line, in whatever way, and whatever has been asked for then, with
or without success: the state that is left goes on as a fresh one does over the text from the
current lexeme on.  All further requests give the same results and lead to the same current
lexemes, and only the columns are further on, by the column of that lexeme. -/
theorem alike_reached (line : String) (reading : List Scanner.Request)
    (asked : List Evaluation.Request) :
    Alike (reached line reading asked).current.column
      (freshFrom line (reached line reading asked).current.column)
      (reached line reading asked) := by
  obtain ⟨index, hat⟩ := exists_at_reached line reading asked
  have habreast := abreast_freshFrom hat
  have hcorresponds := corresponds_drop line index
  rw [hat.current_eq]
  exact ⟨habreast.displaced hcorresponds, habreast.converse hcorresponds⟩

end LineCalculator
