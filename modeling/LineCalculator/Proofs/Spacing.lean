import LineCalculator.Proofs.Displacement
import Mathlib.Data.List.Forall2

/-!
# Spacing

Blanks mean nothing.  They can be put into a line at any place, also next to other blanks,
behind an invalid character or at the end of the line, as long as they do not cut a digit
run in two.  The line then has the same value, the same tokens and the same fault as before,
and only the columns from that place on move by the number of the blanks.

Main statement: `displaced_insert_blanks`.
-/

namespace LineCalculator

/-- Where columns go when `count` characters are put in at the column `place`. -/
def Inserted (place count : Nat) (column column' : Column) : Prop :=
  (column < place ∧ column' = column) ∨ (place ≤ column ∧ column' = column + count)

namespace Segmentation

/-- Blanks between two texts only move the lexemes of the second one. -/
theorem lexemes_insert_blanks {front blanks back : List Char} (hapart : Apart front back)
    (hblanks : ∀ c ∈ blanks, Text.isBlank c = true) :
    lexemes (front ++ (blanks ++ back)) =
      lexemes front ++ lexemesFrom (front.length + blanks.length) back := by
  rw [lexemes_append (hapart.blanks_append hblanks), lexemesFrom_blanks_append hblanks]

theorem displaced_lexemes_insert_blanks {front blanks back : List Char}
    (hapart : Apart front back) (hblanks : ∀ c ∈ blanks, Text.isBlank c = true) :
    List.Forall₂ (Lexeme.Displaced (Inserted front.length blanks.length))
      (lexemes (front ++ back)) (lexemes (front ++ (blanks ++ back))) := by
  rw [lexemes_append hapart, lexemes_insert_blanks hapart hblanks]
  apply List.rel_append
  · apply displaced_lexemes
    intro column hlt
    exact .inl ⟨hlt, rfl⟩
  · apply displaced_lexemesFrom
    intro offset _
    exact .inr ⟨Nat.le_add_right _ _, Nat.add_right_comm _ _ _⟩

end Segmentation

open Segmentation

/-- Blanks can be put in between two texts that do not touch inside a digit run.  In both
modes the line keeps its value, or its fault, of which a column before the blanks stays and
any other column moves by the number of the blanks; and likewise the line keeps its tokens,
or the fault for which it has none. -/
theorem displaced_insert_blanks (front blanks back : String) (hline : front ++ back ≠ "")
    (hapart : Apart front.toList back.toList)
    (hblanks : ∀ c ∈ blanks.toList, Text.isBlank c = true) :
    (∀ mode, Displaced (Inserted front.length blanks.length) (evaluate mode (front ++ back))
      (evaluate mode (front ++ blanks ++ back))) ∧
      Displaced (Inserted front.length blanks.length) (tokenize (front ++ back))
        (tokenize (front ++ blanks ++ back)) := by
  have hline' : front ++ blanks ++ back ≠ "" := by
    intro hempty
    obtain ⟨hboth, rfl⟩ := String.append_eq_empty_iff.1 hempty
    obtain ⟨rfl, -⟩ := String.append_eq_empty_iff.1 hboth
    exact hline rfl
  have htext : (front ++ blanks ++ back).toList =
      front.toList ++ (blanks.toList ++ back.toList) := by
    rw [String.toList_append, String.toList_append, List.append_assoc]
  have hlexemes : List.Forall₂ (Lexeme.Displaced (Inserted front.length blanks.length))
      (lexemes (front ++ back).toList) (lexemes (front ++ blanks ++ back).toList) := by
    rw [htext, String.toList_append, ← String.length_toList, ← String.length_toList]
    exact displaced_lexemes_insert_blanks hapart hblanks
  have hend : Inserted front.length blanks.length (front ++ back).toList.length
      (front ++ blanks ++ back).toList.length := by
    right
    rw [String.length_toList, String.length_toList, String.length_append, String.length_append,
      String.length_append]
    exact ⟨Nat.le_add_right _ _, Nat.add_right_comm _ _ _⟩
  refine ⟨fun mode => ?_, displaced_tokenize hline hline' hlexemes⟩
  exact displaced_evaluate hline hline' (displaced_stream hlexemes hend) mode

/-- Blanks in front of an invalid character, behind an operator. -/
theorem displaced_insert_blanks_unexpected :
    ("9 *" ++ "y" ≠ "" ∧ Apart "9 *".toList "y".toList ∧
      ∀ c ∈ " \t".toList, Text.isBlank c = true) ∧
      (∀ mode, Displaced (Inserted 3 2) (evaluate mode "9 *y") (evaluate mode "9 * \ty")) ∧
      Displaced (Inserted 3 2) (tokenize "9 *y") (tokenize "9 * \ty") := by
  have hline : "9 *" ++ "y" ≠ "" := by decide
  have hapart : Apart "9 *".toList "y".toList := by decide
  have hblanks : ∀ c ∈ " \t".toList, Text.isBlank c = true := List.all_eq_true.1 rfl
  exact ⟨⟨hline, hapart, hblanks⟩, displaced_insert_blanks "9 *" " \t" "y" hline hapart hblanks⟩

end LineCalculator
