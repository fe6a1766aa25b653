import LineCalculator.Proofs.Acceptance
import LineCalculator.Proofs.Position

/-!
# Displacement

Two texts can hold the same tokens at different columns.  What is read from them is then
the same, too, apart from the column of a fault.  This file makes that precise for any
relation between the columns of the two texts: if the lexemes differ in related columns
only, so do the results.

A course looks at its entries one after the other, up to the one at which it stops.  So it
can be taken in any other sequence in which the entries up to there correspond to its own,
under whatever numbers (`Carries`).  For whole lines this gives `displaced_evaluate` and
`displaced_tokenize`.
-/

namespace LineCalculator

variable {moved : Column → Column → Prop}

/-- The same token at a column that is related to its own. -/
structure Lexeme.Displaced (moved : Column → Column → Prop) (lexeme lexeme' : Lexeme) : Prop where
  token_eq : lexeme'.token = lexeme.token
  column_moved : moved lexeme.column lexeme'.column

/-- The same fault at a column that is related to its own. -/
inductive Fault.Displaced (moved : Column → Column → Prop) : Fault → Fault → Prop
  | emptyLine : Displaced moved emptyLine emptyLine
  | unexpected (expected : Category) (found : Token) {column column' : Column}
      (hmoved : moved column column') :
      Displaced moved (unexpected expected found column) (unexpected expected found column')
  | divisionByZero {column column' : Column} (hmoved : moved column column') :
      Displaced moved (divisionByZero column) (divisionByZero column')
  | literalTooLarge {column column' : Column} (hmoved : moved column column') :
      Displaced moved (literalTooLarge column) (literalTooLarge column')
  | overflow {column column' : Column} (hmoved : moved column column') :
      Displaced moved (overflow column) (overflow column')

/-- The same value, or the same fault at a column that is related to its own. -/
inductive Displaced (moved : Column → Column → Prop) {α : Type} :
    Except Fault α → Except Fault α → Prop
  | ok (a : α) : Displaced moved (.ok a) (.ok a)
  | error {fault fault' : Fault} (hfault : fault.Displaced moved fault') :
      Displaced moved (.error fault) (.error fault')

theorem Displaced.eq_ok {α : Type} {a : α} {result : Except Fault α}
    (hresult : Displaced moved (.ok a) result) : result = .ok a := by
  cases hresult
  rfl

theorem Displaced.exists_error {α : Type} {fault : Fault} {result : Except Fault α}
    (hresult : Displaced moved (.error fault) result) :
    ∃ fault', result = .error fault' ∧ fault.Displaced moved fault' := by
  cases hresult with
  | error hfault => exact ⟨_, rfl, hfault⟩

/-- Nothing changes where columns stay. -/
theorem Fault.Displaced.eq {fault fault' : Fault} (hfault : fault.Displaced Eq fault') :
    fault' = fault := by
  cases hfault with
  | emptyLine => rfl
  | unexpected _ _ hmoved => rw [hmoved]
  | divisionByZero hmoved => rw [hmoved]
  | literalTooLarge hmoved => rw [hmoved]
  | overflow hmoved => rw [hmoved]

theorem Displaced.eq {α : Type} {result result' : Except Fault α}
    (hresult : Displaced Eq result result') : result' = result := by
  cases hresult with
  | ok a => rfl
  | error hfault => rw [hfault.eq]

theorem Displaced.map {α β : Type} (f : α → β) {result result' : Except Fault α}
    (hresult : Displaced moved result result') :
    Displaced moved (result.map f) (result'.map f) := by
  cases hresult with
  | ok a => exact .ok (f a)
  | error hfault => exact .error hfault

/-- A lexeme with a known token is displaced to the same token. -/
theorem Lexeme.Displaced.exists_column {lexeme lexeme' : Lexeme} {token : Token} {column : Column}
    (hlexeme : lexeme.Displaced moved lexeme') (heq : lexeme = ⟨token, column⟩) :
    ∃ column', lexeme' = ⟨token, column'⟩ ∧ moved column column' := by
  subst heq
  exact ⟨lexeme'.column, Lexeme.eq_of_token hlexeme.token_eq, hlexeme.column_moved⟩

/-- What an operator gives depends on its column only where it fails. -/
theorem Operator.displaced_combine (op : Operator) (lhs rhs : Int) {column column' : Column}
    (hmoved : moved column column') :
    Displaced moved (op.combine lhs rhs column) (op.combine lhs rhs column') := by
  unfold combine
  split
  · exact .error (.divisionByZero hmoved)
  · split
    · exact .ok _
    · exact .error (.overflow hmoved)

/-- The tokens of lexemes that differ in related columns only. -/
theorem map_token_of_displaced {read read' : List Lexeme}
    (hlexemes : List.Forall₂ (Lexeme.Displaced moved) read read') :
    read'.map Lexeme.token = read.map Lexeme.token := by
  induction hlexemes with
  | nil => rfl
  | cons hfirst _ ih => rw [List.map_cons, List.map_cons, hfirst.token_eq, ih]

namespace Evaluation

variable {entry entry' : Nat → Lexeme}

/-- Entries of two sequences correspond up to a limit: at places that are related they differ
in related columns only, and where an operand follows it is entered on both sides. -/
structure Corresponds (moved : Column → Column → Prop) (entry entry' : Nat → Lexeme)
    (limit : Nat) (place enter : Nat → Nat → Prop) : Prop where
  displaced : ∀ index index', place index index' → index ≤ limit →
    (entry index).Displaced moved (entry' index')
  next : ∀ index index', place index index' → index < limit → enter (index + 1) (index' + 1)

/-- A course that stays within a limit can be taken in another sequence wherever that can be
entered.  It gives the same there, apart from a column, and stops at a related place. -/
def Carries (moved : Column → Column → Prop) (limit : Nat) (enter place : Nat → Nat → Prop)
    (course course' : Course) : Prop :=
  ∀ ⦃start result events stop start'⦄, course start result events stop → stop ≤ limit →
    enter start start' →
      ∃ result' events' stop', course' start' result' events' stop' ∧
        Displaced moved result result' ∧ place stop stop'

variable {limit : Nat} {place enter : Nat → Nat → Prop}

theorem carries_factorCourse (hcorresponds : Corresponds moved entry entry' limit place place) :
    Carries moved limit place place (FactorCourse entry) (FactorCourse entry') := by
  intro start result events stop start' hcourse hle hplace
  have hstart := Nat.le_trans (forward_factorCourse hcourse) hle
  have hlexeme := hcorresponds.displaced _ _ hplace hstart
  cases hcourse with
  | number hentry =>
      obtain ⟨column', hentry', -⟩ := hlexeme.exists_column hentry
      exact ⟨_, _, _, .number hentry', .ok _, hcorresponds.next _ _ hplace hle⟩
  | oversized hentry =>
      obtain ⟨column', hentry', hmoved⟩ := hlexeme.exists_column hentry
      exact ⟨_, _, _, .oversized hentry', .error (.literalTooLarge hmoved),
        hcorresponds.next _ _ hplace hle⟩
  | unexpected hcategory =>
      rw [← hlexeme.token_eq] at hcategory ⊢
      exact ⟨_, _, _, .unexpected hcategory, .error (.unexpected _ _ hlexeme.column_moved), hplace⟩

/-- Where a chain ends depends on the token at its end only. -/
theorem Ends.displaced {level : Level} {index index' : Nat} (hends : Ends entry level index)
    (hlexeme : (entry index).Displaced moved (entry' index')) : Ends entry' level index' := by
  intro op htoken
  rw [hlexeme.token_eq] at htoken
  exact hends op htoken

/-- The induction is on the course.  Each operator of the chain stands at a place of its own,
behind which the operand is entered, and the operand stops at the place of the next one. -/
theorem carries_chainCourse {operand operand' : Course} (hforward : Forward operand)
    (hcorresponds : Corresponds moved entry entry' limit place enter)
    (hoperand : Carries moved limit enter place operand operand') (level : Level) (lhs : Int) :
    Carries moved limit place place (ChainCourse entry operand level lhs)
      (ChainCourse entry' operand' level lhs) := by
  intro start result events stop start' hcourse hle hplace
  induction hcourse generalizing start' with
  | done hends =>
      have hlexeme := hcorresponds.displaced _ _ hplace hle
      exact ⟨_, _, _, .done (hends.displaced hlexeme), .ok _, hplace⟩
  | operandFault hentry hlevel hfault =>
      have hlt := Nat.le_trans (hforward hfault) hle
      have hlexeme := hcorresponds.displaced _ _ hplace (Nat.le_of_lt hlt)
      obtain ⟨column', hentry', -⟩ := hlexeme.exists_column hentry
      obtain ⟨result', events', stop', hoperand', hresult, hstop⟩ :=
        hoperand hfault hle (hcorresponds.next _ _ hplace hlt)
      obtain ⟨fault', rfl, hfault'⟩ := hresult.exists_error
      exact ⟨_, _, _, .operandFault hentry' hlevel hoperand', .error hfault', hstop⟩
  | @combineFault _ _ lhs rhs op _ _ _ hentry hlevel hvalue hcombine =>
      have hlt := Nat.le_trans (hforward hvalue) hle
      have hlexeme := hcorresponds.displaced _ _ hplace (Nat.le_of_lt hlt)
      obtain ⟨column', hentry', hmoved⟩ := hlexeme.exists_column hentry
      obtain ⟨result', events', stop', hoperand', hresult, hstop⟩ :=
        hoperand hvalue hle (hcorresponds.next _ _ hplace hlt)
      obtain rfl := hresult.eq_ok
      have hdisplaced := op.displaced_combine lhs rhs hmoved
      rw [hcombine] at hdisplaced
      obtain ⟨fault', hcombine', hfault'⟩ := hdisplaced.exists_error
      exact ⟨_, _, _, .combineFault hentry' hlevel hoperand' hcombine', .error hfault', hstop⟩
  | @step _ _ _ lhs rhs _ op _ _ _ _ hentry hlevel hvalue hcombine hmore ih =>
      have hmiddle := Nat.le_trans (forward_chainCourse hforward level _ hmore) hle
      have hlt := Nat.le_trans (hforward hvalue) hmiddle
      have hlexeme := hcorresponds.displaced _ _ hplace (Nat.le_of_lt hlt)
      obtain ⟨column', hentry', hmoved⟩ := hlexeme.exists_column hentry
      obtain ⟨result', events', middle', hoperand', hresult, hplace'⟩ :=
        hoperand hvalue hmiddle (hcorresponds.next _ _ hplace hlt)
      obtain rfl := hresult.eq_ok
      have hdisplaced := op.displaced_combine lhs rhs hmoved
      rw [hcombine] at hdisplaced
      obtain ⟨result', later', stop', hmore', hresult', hstop⟩ := ih hle hplace'
      exact ⟨_, _, _, .step hentry' hlevel hoperand' hdisplaced.eq_ok hmore', hresult', hstop⟩

theorem carries_joinedCourse {operand operand' : Course} (hforward : Forward operand)
    (hcorresponds : Corresponds moved entry entry' limit place enter)
    (hoperand : Carries moved limit enter place operand operand') (level : Level) :
    Carries moved limit enter place (JoinedCourse entry operand level)
      (JoinedCourse entry' operand' level) := by
  intro start result events stop start' hcourse hle henter
  cases hcourse with
  | fault hfault =>
      obtain ⟨result', events', stop', hoperand', hresult, hstop⟩ := hoperand hfault hle henter
      obtain ⟨fault', rfl, hfault'⟩ := hresult.exists_error
      exact ⟨_, _, _, .fault hoperand', .error hfault', hstop⟩
  | chain hvalue hchain =>
      have hmiddle := Nat.le_trans (forward_chainCourse hforward level _ hchain) hle
      obtain ⟨result', events', middle', hoperand', hresult, hplace⟩ :=
        hoperand hvalue hmiddle henter
      obtain rfl := hresult.eq_ok
      obtain ⟨result', later', stop', hchain', hresult', hstop⟩ :=
        carries_chainCourse hforward hcorresponds hoperand level _ hchain hle hplace
      exact ⟨_, _, _, .chain hoperand' hchain', hresult', hstop⟩

theorem carries_termCourse (hcorresponds : Corresponds moved entry entry' limit place place) :
    Carries moved limit place place (TermCourse entry) (TermCourse entry') :=
  carries_joinedCourse forward_factorCourse hcorresponds (carries_factorCourse hcorresponds)
    .product

theorem carries_expressionCourse
    (hcorresponds : Corresponds moved entry entry' limit place place) :
    Carries moved limit place place (ExpressionCourse entry) (ExpressionCourse entry') :=
  carries_joinedCourse forward_termCourse hcorresponds (carries_termCourse hcorresponds) .sum

end Evaluation

open Evaluation Scanner Segmentation

variable {line line' : String}

/-- Two lines have the same result, apart from a column, if they take courses with that
property to entries with that property. -/
theorem displaced_evaluate_of_courses (hline : line ≠ "") (hline' : line' ≠ "")
    {result result' : Except Fault Int} {events events' : List Event} {stop stop' : Nat}
    (hcourse : ExpressionCourse (stream line.toList) 0 result events stop)
    (hcourse' : ExpressionCourse (stream line'.toList) 0 result' events' stop')
    (hresult : Displaced moved result result')
    (hstop : (stream line.toList stop).Displaced moved (stream line'.toList stop')) (mode : Mode) :
    Displaced moved (evaluate mode line) (evaluate mode line') := by
  cases mode with
  | lenient =>
      rw [evaluate_lenient_of_course hline hcourse, evaluate_lenient_of_course hline' hcourse']
      exact hresult
  | strict =>
      cases hresult with
      | ok n =>
          rw [evaluate_strict_of_value hline hcourse, evaluate_strict_of_value hline' hcourse',
            hstop.token_eq]
          split
          · exact .ok n
          · exact .error (.unexpected _ _ hstop.column_moved)
      | error hfault =>
          rw [evaluate_strict_of_fault hline hcourse, evaluate_strict_of_fault hline' hcourse']
          exact .error hfault

/-- Two lines have the same result, apart from a column, if their streams differ in related columns
only, as far as the course of one of them goes. -/
theorem displaced_evaluate_of_course (hline : line ≠ "") (hline' : line' ≠ "")
    {result : Except Fault Int} {events : List Event} {stop : Nat}
    (hcourse : ExpressionCourse (stream line.toList) 0 result events stop)
    (hstream : ∀ index ≤ stop,
      (stream line.toList index).Displaced moved (stream line'.toList index)) (mode : Mode) :
    Displaced moved (evaluate mode line) (evaluate mode line') := by
  -- Every entry corresponds to the one with its own number.
  have hcorresponds : Corresponds moved (stream line.toList) (stream line'.toList) stop Eq Eq := by
    constructor
    · rintro index _ rfl hle
      exact hstream index hle
    · rintro index _ rfl _
      rfl
  obtain ⟨result', events', stop', hcourse', hresult, rfl⟩ :=
    carries_expressionCourse hcorresponds hcourse (Nat.le_refl stop) rfl
  have hlast := hstream stop (Nat.le_refl stop)
  exact displaced_evaluate_of_courses hline hline' hcourse hcourse' hresult hlast mode

/-- Entries of two lists that differ in related columns only, with a last entry for ever. -/
theorem displaced_getD {read read' : List Lexeme} {last last' : Lexeme}
    (hlexemes : List.Forall₂ (Lexeme.Displaced moved) read read')
    (hlast : last.Displaced moved last') (index : Nat) :
    (read[index]?.getD last).Displaced moved (read'[index]?.getD last') := by
  induction hlexemes generalizing index with
  | nil => exact hlast
  | cons hfirst _ ih =>
      cases index with
      | zero => exact hfirst
      | succ index => exact ih index

/-- Lexemes and ends that differ in related columns only make such streams. -/
theorem displaced_stream {text text' : List Char}
    (hlexemes : List.Forall₂ (Lexeme.Displaced moved) (lexemes text) (lexemes text'))
    (hend : moved text.length text'.length) (index : Nat) :
    (stream text index).Displaced moved (stream text' index) := by
  have hlast : (⟨.endOfLine, text.length⟩ : Lexeme).Displaced moved ⟨.endOfLine, text'.length⟩ :=
    ⟨rfl, hend⟩
  exact displaced_getD hlexemes hlast index

/-- Lines whose streams differ in related columns only have such results. -/
theorem displaced_evaluate (hline : line ≠ "") (hline' : line' ≠ "")
    (hstream : ∀ index, (stream line.toList index).Displaced moved (stream line'.toList index))
    (mode : Mode) : Displaced moved (evaluate mode line) (evaluate mode line') := by
  obtain ⟨result, events, stop, hcourse⟩ := exists_course line
  exact displaced_evaluate_of_course hline hline' hcourse (fun index _ => hstream index) mode

/-- The tokens of lexemes that differ in related columns only. -/
theorem displaced_accepted {read read' : List Lexeme}
    (hlexemes : List.Forall₂ (Lexeme.Displaced moved) read read') :
    Displaced moved (accepted read) (accepted read') := by
  induction hlexemes with
  | nil => exact .ok []
  | @cons lexeme lexeme' more more' hfirst _ ih =>
      obtain ⟨token, column⟩ := lexeme
      obtain ⟨column', rfl, hmoved⟩ := hfirst.exists_column rfl
      rcases closes_cases token with rfl | rfl | htoken
      · exact .ok []
      · exact .error (.literalTooLarge hmoved)
      · rw [accepted_of_not_closes htoken, accepted_of_not_closes htoken]
        exact ih.map _

theorem displaced_tokenize (hline : line ≠ "") (hline' : line' ≠ "")
    (hlexemes : List.Forall₂ (Lexeme.Displaced moved) (lexemes line.toList)
      (lexemes line'.toList)) : Displaced moved (tokenize line) (tokenize line') := by
  rw [tokenize_of_ne hline, tokenize_of_ne hline']
  exact displaced_accepted hlexemes

namespace Segmentation

/-- The same text at two places of two lines has the same lexemes there, apart from their
columns.  The induction is on the text, one spelling at a time. -/
theorem displaced_lexemesFrom (text : List Char) {column column' : Column}
    (hmoved : ∀ offset < text.length, moved (column + offset) (column' + offset)) :
    List.Forall₂ (Lexeme.Displaced moved) (lexemesFrom column text)
      (lexemesFrom column' text) := by
  induction hsize : text.length using Nat.strongRecOn generalizing text column column' with
  | _ size ih =>
      subst hsize
      rw [lexemesFrom_skip column, lexemesFrom_skip column']
      have hblanks := List.takeWhile_append_dropWhile (p := Text.isBlank) (l := text)
      cases hrest : text.dropWhile Text.isBlank with
      | nil => exact .nil
      | cons first more =>
          -- The lexeme stands behind the blanks, and the rest behind its spelling.
          have hlength : (text.takeWhile Text.isBlank).length + (first :: more).length =
              text.length := by
            rw [← hrest, ← List.length_append, hblanks]
          have hspelling : 0 < (firstSpelling (first :: more)).length :=
            List.length_pos_iff.2 (mt firstSpelling_eq_nil_iff.1 (List.cons_ne_nil first more))
          have hfits := (firstSpelling_starts (first :: more)).length_le
          have hblank := Text.isBlank_eq_false_of_dropWhile hrest
          have hmore := List.length_drop (i := (firstSpelling (first :: more)).length)
            (l := first :: more)
          rw [lexemesFrom_cons hblank, lexemesFrom_cons hblank]
          refine .cons ⟨rfl, hmoved _ (by omega)⟩ (ih _ (by omega) _ ?_ rfl)
          intro offset hoffset
          have hplace := hmoved ((text.takeWhile Text.isBlank).length +
            (firstSpelling (first :: more)).length + offset) (by omega)
          simpa only [Nat.add_assoc] using hplace

/-- The lexemes of some text whose columns stay. -/
theorem displaced_lexemes (text : List Char) (hkept : ∀ column < text.length, moved column column) :
    List.Forall₂ (Lexeme.Displaced moved) (lexemes text) (lexemes text) := by
  rw [← lexemesFrom_zero]
  apply displaced_lexemesFrom
  intro offset hoffset
  rw [Nat.zero_add]
  exact hkept offset hoffset

/-- The tokens of some text do not depend on where it stands. -/
theorem map_token_lexemesFrom (column : Column) (text : List Char) :
    (lexemesFrom column text).map Lexeme.token = (lexemes text).map Lexeme.token :=
  map_token_of_displaced (@displaced_lexemesFrom (fun _ _ => True) text 0 column
    fun _ _ => trivial)

end Segmentation

end LineCalculator
