import LineCalculator.Proofs.Scanning
import Mathlib.Data.Nat.Digits.Defs

/-!
# Accumulating a literal

A scanner that stands in front of a digit run takes the whole run, and what it gives depends on
the value of the run alone: the number itself as long as it fits, and an oversized literal
otherwise, whatever zeros come first and however long the run is.

The number is accumulated with two checked operations for each digit, and a check that fails
ends the accumulation for good.  That no check fails too early and none is forgotten is said for
every front of the run: the number accumulated so far is the exact value of that front, and it is
missing from the first front on whose value does not fit.  Values of fronts only grow, so the
last one decides.

Main statement: `scan_digitRun`.
-/

namespace LineCalculator

namespace Literal

/-- One step of an accumulation, which stays given up once it is. -/
def accumulate (accumulated? : Option Int) (digit : Char) : Option Int :=
  accumulated?.bind fun value => extend value digit

theorem value?_concat (front : List Char) (c : Char) :
    value? (front ++ [c]) = accumulate (value? front) c := by
  rw [value?, List.foldlM_append, ← value?]
  cases value? front with
  | none => rfl
  | some value => exact bind_pure (extend value c)

/-- A digit is the character that stands as far behind the zero as its value says. -/
theorem toNat_eq_add_digitValue {c : Char} (hdigit : c.isDigit = true) :
    c.toNat = '0'.toNat + digitValue c ∧ digitValue c ≤ 9 := by
  have hbounds := Char.isDigit_iff_toNat.1 hdigit
  have hzero : '0'.toNat = 48 := rfl
  have hnine : '9'.toNat = 57 := rfl
  unfold digitValue
  omega

theorem value_concat (front : List Char) (c : Char) :
    Decimal.value (front ++ [c]) = 10 * Decimal.value front + digitValue c := by
  rw [Decimal.value, Nat.ofDigitChars_append, Nat.ofDigitChars_cons, Nat.ofDigitChars_nil]
  rfl

/-- The value of a run counts each digit by its place from the right. -/
theorem value_eq_ofDigits (run : List Char) :
    Decimal.value run = Nat.ofDigits 10 (run.map digitValue).reverse := by
  induction run using List.reverseRecOn with
  | nil => rfl
  | append_singleton front c ih =>
      rw [value_concat, List.map_append, List.map_singleton, List.reverse_concat,
        Nat.ofDigits_cons, ih]
      omega

/-- The value of a front of a run is no larger than that of the run. -/
theorem value_le_of_prefix {front run : List Char} (hfront : front <+: run) :
    Decimal.value front ≤ Decimal.value run := by
  obtain ⟨more, rfl⟩ := hfront
  unfold Decimal.value
  rw [Nat.ofDigitChars_append]
  exact le_ofDigitChars more _

/-- Reading a run can start at the value of its first digit, as one digit always fits. -/
theorem value?_cons {first : Char} (hdigit : first.isDigit = true) (more : List Char) :
    value? (first :: more) = more.foldl accumulate (some (digitValue first)) := by
  induction more using List.reverseRecOn with
  | nil =>
      obtain ⟨-, hle⟩ := toNat_eq_add_digitValue hdigit
      have hvalue : Decimal.value [first] = digitValue first := by
        rw [← List.nil_append [first], value_concat]
        exact Nat.zero_add _
      rw [value?_eq, hvalue, if_pos]
      · rfl
      · unfold greatestInteger
        omega
  | append_singleton more c ih =>
      rw [← List.cons_append, value?_concat, ih, List.foldl_concat]

/-- What accumulating a digit run comes to. -/
structure Accumulates (run : List Char) : Prop where
  /-- Every character is a digit, so its distance from the zero is its value. -/
  digit : ∀ c ∈ run, c.toNat = '0'.toNat + digitValue c ∧ digitValue c ≤ 9
  /-- The value of the run is the sum of its digits, each times a power of ten. -/
  positional : Decimal.value run = Nat.ofDigits 10 (run.map digitValue).reverse
  /-- The first digit is taken as it is and every other one is a step. -/
  steps : ∀ first more, run = first :: more →
    value? run = more.foldl accumulate (some (digitValue first))
  /-- Behind each front the exact value of that front is held, unless it does not fit. -/
  held : ∀ front, front <+: run →
    value? front =
      if (Decimal.value front : Int) ≤ greatestInteger then some (Decimal.value front : Int)
      else none
  /-- Neither of the two checks of a step fails if the value of the run fits. -/
  unfailing : (Decimal.value run : Int) ≤ greatestInteger → ∀ front c, front ++ [c] <+: run →
    narrow? (Decimal.value front * 10) = some (Decimal.value front * 10 : Int) ∧
      narrow? (Decimal.value front * 10 + digitValue c) =
        some (Decimal.value (front ++ [c]) : Int)
  /-- Once the accumulation is given up, it is so for the rest of the run. -/
  lost : ∀ front more, run = front ++ more → value? front = none →
    ∀ further, further <+: more → value? (front ++ further) = none

theorem accumulates_of_isDigit {run : List Char} (hdigits : ∀ c ∈ run, c.isDigit = true) :
    Accumulates run where
  digit c hc := toNat_eq_add_digitValue (hdigits c hc)
  positional := value_eq_ofDigits run
  steps := by
    rintro first more rfl
    exact value?_cons (hdigits first List.mem_cons_self) more
  held front _ := value?_eq front
  unfailing := by
    intro hfits front c hfront
    -- Both results lie between zero and the value of the run.
    have hle := value_le_of_prefix hfront
    have hconcat := value_concat front c
    constructor
    · refine narrow?_eq_some_iff.2 ⟨?_, rfl⟩
      unfold Representable leastInteger
      omega
    · refine narrow?_eq_some_iff.2 ⟨?_, ?_⟩
      · unfold Representable leastInteger
        omega
      · omega
  lost := by
    rintro front more rfl hfront further -
    have hgrows := value_le_of_prefix (List.prefix_append front further)
    rw [value?_eq] at hfront ⊢
    have hlarge : ¬ (Decimal.value front : Int) ≤ greatestInteger := by
      intro hfits
      rw [if_pos hfits] at hfront
      cases hfront
    rw [if_neg]
    omega

end Literal

namespace Segmentation

variable {run : List Char}

/-- A digit run is a number exactly if its value fits. -/
theorem numeral_eq_number_iff {n : Int} :
    numeral run = .number n ↔ n = Decimal.value run ∧ n ≤ greatestInteger := by
  unfold numeral
  split
  · next hfits =>
      rw [Token.number.injEq]
      constructor
      · rintro rfl
        exact ⟨rfl, hfits⟩
      · rintro ⟨rfl, -⟩
        rfl
  · next hlarge =>
      constructor
      · intro h
        cases h
      · rintro ⟨rfl, hfits⟩
        exact absurd hfits hlarge

theorem numeral_eq_oversized_iff :
    numeral run = .oversized ↔ greatestInteger < Decimal.value run := by
  unfold numeral
  split
  · next hfits => simpa using hfits
  · next hlarge => simpa using hlarge

end Segmentation

namespace Scanner

open Literal Segmentation

/-- Behind some blanks a scanner has a digit run in front of it, and then no further digit. -/
structure BeforeRun (s : Scanner) (blanks run rest : List Char) : Prop where
  rest_eq : s.rest = blanks ++ (run ++ rest)
  blank : ∀ c ∈ blanks, Text.isBlank c = true
  nonempty : run ≠ []
  isDigit : ∀ c ∈ run, c.isDigit = true
  stops : ∀ c ∈ rest.head?, c.isDigit = false

variable {s : Scanner} {blanks run rest : List Char}

/-- The first spelling of a text that begins with a digit run is that run. -/
theorem firstSpelling_run (hnonempty : run ≠ []) (hdigits : ∀ c ∈ run, c.isDigit = true)
    (hstops : ∀ c ∈ rest.head?, c.isDigit = false) : firstSpelling (run ++ rest) = run := by
  cases run with
  | nil => exact absurd rfl hnonempty
  | cons first more =>
      obtain ⟨hfirst, hmore⟩ := List.forall_mem_cons.1 hdigits
      rw [List.cons_append, firstSpelling, if_pos hfirst,
        Text.takeWhile_append_of_stop hmore hstops]

/-- A digit run is read at once, with its full value. -/
theorem BeforeRun.scan_eq (hbefore : s.BeforeRun blanks run rest) :
    s.scan = (⟨numeral run, s.column + blanks.length⟩,
      { s with
        rest
        column := s.column + blanks.length + run.length
        start := s.column + blanks.length }) := by
  obtain ⟨hrest, hblanks, hnonempty, hdigits, hstops⟩ := hbefore
  have hspelling := firstSpelling_run hnonempty hdigits hstops
  cases run with
  | nil => exact absurd rfl hnonempty
  | cons first more =>
      have hfirst := hdigits first List.mem_cons_self
      have hstart : ∀ c ∈ (first :: more ++ rest).head?, Text.isBlank c = false := by
        intro c hc
        obtain rfl : first = c := by simpa using hc
        exact Text.isBlank_eq_false_of_isDigit hfirst
      have htake : s.rest.takeWhile Text.isBlank = blanks := by
        rw [hrest, Text.takeWhile_append_of_stop hblanks hstart]
      have hdrop : s.rest.dropWhile Text.isBlank = first :: more ++ rest := by
        rw [hrest, Text.dropWhile_append_of_stop hblanks hstart]
      have htoken : Token.ofSpelling (first :: more) = numeral (first :: more) := by
        rw [ofSpelling_cons, token, if_pos hfirst]
      simp only [scan, htake, hdrop, hspelling, htoken, List.drop_left]

/-- What is read as a number is a digit run. -/
theorem exists_beforeRun (hnumber : s.scan.1.token.category = .number) :
    ∃ blanks run rest, s.BeforeRun blanks run rest := by
  have htext := (List.takeWhile_append_dropWhile (p := Text.isBlank) (l := s.rest)).symm
  have hblanks : ∀ c ∈ s.rest.takeWhile Text.isBlank, Text.isBlank c = true :=
    List.all_eq_true.1 List.all_takeWhile
  cases hrest : s.rest.dropWhile Text.isBlank with
  | nil =>
      rw [(scan_of_blank hrest).2.1] at hnumber
      cases hnumber
  | cons first more =>
      have hdigit : first.isDigit = true := by
        by_contra hsymbol
        -- A character that is no digit is an operator or invalid.
        have htoken : s.scan.1.token = Token.ofSymbol first := by
          simp only [scan, hrest, firstSpelling, if_neg hsymbol, Token.ofSpelling]
        rw [htoken, Token.ofSymbol] at hnumber
        cases hop : Operator.ofSymbol? first <;> rw [hop] at hnumber <;> cases hnumber
      refine ⟨_, first :: more.takeWhile Char.isDigit, more.dropWhile Char.isDigit, ?_, hblanks,
        List.cons_ne_nil _ _, Text.isDigit_of_mem_run hdigit more,
        Text.eq_false_of_head?_dropWhile Char.isDigit more⟩
      rw [List.cons_append, List.takeWhile_append_dropWhile, ← hrest]
      exact htext

/-- A scanner in front of a digit run, and nowhere else, reads a number or an oversized literal.  It
takes the whole run and nothing behind it.  What it gives is the value of the run exactly if this is
at most the greatest integer, and an oversized literal otherwise.  On the way to it

* only digits are taken for their distance from the zero, which is at most nine,
* the number held behind each front of the run is the exact value of that front, so it never wraps
  around and is never negative,
* no checked operation fails on a run whose value fits,
* an accumulation that has failed stays so, whatever digits follow. -/
theorem scan_digitRun (s : Scanner) :
    (∀ blanks run rest, s.BeforeRun blanks run rest →
      (s.scan.2.rest = rest ∧ s.scan.2.column = s.column + (blanks ++ run).length ∧
        s.scan.2.start = s.column + blanks.length) ∧
      (∀ n : Int, s.scan.1.token = .number n ↔
        n = Decimal.value run ∧ n ≤ greatestInteger) ∧
      (s.scan.1.token = .oversized ↔ greatestInteger < Decimal.value run) ∧
      s.scan.1.token = Token.ofDigits run ∧ Accumulates run) ∧
    (s.scan.1.token.category = .number → ∃ blanks run rest, s.BeforeRun blanks run rest) := by
  refine ⟨?_, exists_beforeRun⟩
  intro blanks run rest hbefore
  rw [hbefore.scan_eq]
  refine ⟨⟨rfl, ?_, rfl⟩, fun n => numeral_eq_number_iff, numeral_eq_oversized_iff,
    (ofDigits_eq_numeral run).symm, accumulates_of_isDigit hbefore.isDigit⟩
  rw [List.length_append, Nat.add_assoc]

/-- The greatest number that fits behind zeros, and the next one. -/
theorem scan_digitRun_greatest :
    ((ofString " 009223372036854775807+").BeforeRun [' '] "009223372036854775807".toList ['+'] ∧
      (ofString " 009223372036854775807+").scan.1.token = .number 9223372036854775807) ∧
    ((ofString "9223372036854775808").BeforeRun [] "9223372036854775808".toList [] ∧
      (ofString "9223372036854775808").scan.1.token = .oversized) := by
  have hgreatest : (ofString " 009223372036854775807+").BeforeRun [' ']
      "009223372036854775807".toList ['+'] :=
    ⟨rfl, List.all_eq_true.1 rfl, by decide, List.all_eq_true.1 rfl, by simp⟩
  have hnext : (ofString "9223372036854775808").BeforeRun [] "9223372036854775808".toList [] :=
    ⟨rfl, List.all_eq_true.1 rfl, by decide, List.all_eq_true.1 rfl, by simp⟩
  obtain ⟨-, hnumber, -⟩ := (scan_digitRun _).1 _ _ _ hgreatest
  obtain ⟨-, -, hoversized, -⟩ := (scan_digitRun _).1 _ _ _ hnext
  exact ⟨⟨hgreatest, (hnumber _).2 ⟨by decide, by decide⟩⟩, hnext, hoversized.2 (by decide)⟩

end Scanner

end LineCalculator
