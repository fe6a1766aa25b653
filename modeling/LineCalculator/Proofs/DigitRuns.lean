import LineCalculator.Literal
import LineCalculator.Spelling

/-!
# The value of a digit run

A literal is read digit by digit, and reading it is given up as soon as the number
accumulated so far no longer fits.  This file shows that nothing is lost that way: the
number that is kept is the base ten value of the whole run, and reading is given up
exactly for the runs whose value is too large.

The invariant is a statement about the digits that are still to come, for any number
accumulated before them.  Digits never make that number smaller, so a run that was
given up once would not have fitted later either.

Where a run of digits ends is said for runs of characters of any kind.
-/

namespace LineCalculator

namespace Text

variable {kind : Char → Bool} {run rest : List Char}

/-- A run of characters of one kind is taken whole and nothing behind it, if no further one of
them follows. -/
theorem takeWhile_append_of_stop (hrun : ∀ c ∈ run, kind c = true)
    (hstop : ∀ c ∈ rest.head?, kind c = false) : (run ++ rest).takeWhile kind = run := by
  rw [List.takeWhile_append_of_pos hrun]
  cases rest with
  | nil => exact List.append_nil run
  | cons next rest =>
      rw [List.takeWhile_cons, hstop next rfl]
      exact List.append_nil run

/-- What stands behind such a run is left. -/
theorem dropWhile_append_of_stop (hrun : ∀ c ∈ run, kind c = true)
    (hstop : ∀ c ∈ rest.head?, kind c = false) : (run ++ rest).dropWhile kind = rest := by
  rw [List.dropWhile_append_of_pos hrun]
  cases rest with
  | nil => rfl
  | cons next rest =>
      rw [List.dropWhile_cons, hstop next rfl]
      rfl

/-- Behind the characters of one kind stands none of them. -/
theorem eq_false_of_head?_dropWhile (kind : Char → Bool) (text : List Char) :
    ∀ c ∈ (text.dropWhile kind).head?, kind c = false := by
  intro c hc
  have hstops := List.head?_dropWhile_not kind text
  rw [Option.mem_def.1 hc] at hstops
  simpa using hstops

/-- A digit and the digits that follow it are a digit run. -/
theorem isDigit_of_mem_run {first : Char} (hdigit : first.isDigit = true) (more : List Char) :
    ∀ c ∈ first :: more.takeWhile Char.isDigit, c.isDigit = true :=
  List.forall_mem_cons.2 ⟨hdigit, List.all_eq_true.1 List.all_takeWhile⟩

end Text

namespace Literal

/-- Further digits never make an accumulated number smaller. -/
theorem le_ofDigitChars (run : List Char) (accumulated : Nat) :
    accumulated ≤ Nat.ofDigitChars 10 run accumulated := by
  induction run generalizing accumulated with
  | nil => simp
  | cons c cs ih =>
      rw [Nat.ofDigitChars_cons]
      have hmore := ih (10 * accumulated + (c.toNat - '0'.toNat))
      omega

/-- A run of digits behind a number comes to zero exactly if that number and all digits are. -/
theorem ofDigitChars_eq_zero_iff {run : List Char} (hdigits : ∀ c ∈ run, c.isDigit = true)
    (accumulated : Nat) :
    Nat.ofDigitChars 10 run accumulated = 0 ↔ accumulated = 0 ∧ ∀ c ∈ run, c = '0' := by
  induction run generalizing accumulated with
  | nil => simp
  | cons c cs ih =>
      obtain ⟨hdigit, hmore⟩ := List.forall_mem_cons.1 hdigits
      have hzero : c.toNat - '0'.toNat = 0 ↔ c = '0' := by
        have hbounds := Char.isDigit_iff_toNat.1 hdigit
        rw [← Char.toNat_inj]
        omega
      have hsum : 10 * accumulated + (c.toNat - '0'.toNat) = 0 ↔
          accumulated = 0 ∧ c.toNat - '0'.toNat = 0 := by omega
      rw [Nat.ofDigitChars_cons, ih hmore, List.forall_mem_cons, hsum, hzero, and_assoc]

/-- Appending one digit to a number that fits, as one condition on the result. -/
theorem extend_ofNat (accumulated : Nat) (c : Char) :
    extend accumulated c =
      if ((10 * accumulated + digitValue c : Nat) : Int) ≤ greatestInteger then
        some ((10 * accumulated + digitValue c : Nat) : Int)
      else none := by
  have hshift : (accumulated : Int) * 10 = ((10 * accumulated : Nat) : Int) := by omega
  have hdigit : ((10 * accumulated : Nat) : Int) + digitValue c =
      ((10 * accumulated + digitValue c : Nat) : Int) := by omega
  simp only [extend, narrow?, hshift, representable_natCast]
  by_cases hsmall : ((10 * accumulated : Nat) : Int) ≤ greatestInteger
  · simp only [if_pos hsmall, Option.bind_some, hdigit, representable_natCast]
  · have hlarge : ¬ ((10 * accumulated + digitValue c : Nat) : Int) ≤ greatestInteger := by
      omega
    simp only [if_neg hsmall, if_neg hlarge, Option.bind_none]

/-- Reading the rest of a run behind a number that fits. -/
theorem foldlM_extend (run : List Char) (accumulated : Nat)
    (hfits : (accumulated : Int) ≤ greatestInteger) :
    run.foldlM extend (accumulated : Int) =
      if (Nat.ofDigitChars 10 run accumulated : Int) ≤ greatestInteger then
        some (Nat.ofDigitChars 10 run accumulated : Int)
      else none := by
  induction run generalizing accumulated with
  | nil => simp [hfits]
  | cons c cs ih =>
      rw [List.foldlM_cons, extend_ofNat, Nat.ofDigitChars_cons]
      by_cases hnext : ((10 * accumulated + digitValue c : Nat) : Int) ≤ greatestInteger
      · rw [if_pos hnext]
        exact ih _ hnext
      · -- Given up here: the digits behind this one only make the number larger.
        have hgrows := le_ofDigitChars cs (10 * accumulated + digitValue c)
        have hlarge : ¬ (Nat.ofDigitChars 10 cs (10 * accumulated + digitValue c) : Int)
            ≤ greatestInteger := by
          omega
        rw [if_neg hnext]
        exact (if_neg hlarge).symm

/-- A digit run is read as its base ten value if that value fits, and given up otherwise. -/
theorem value?_eq (run : List Char) :
    value? run =
      if (Decimal.value run : Int) ≤ greatestInteger then some (Decimal.value run : Int)
      else none :=
  foldlM_extend run 0 (by decide)

end Literal

end LineCalculator
