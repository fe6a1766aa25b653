/-!
# Representable integers

Every literal and every result is an exact integer that has to fit into sixty-four
bits in two's complement.  Arithmetic is carried out on unbounded integers and the
exact result is then either kept or refused, so nothing ever wraps.
-/

namespace LineCalculator

/-- The least integer that fits, minus two to the power of sixty-three. -/
def leastInteger : Int := -9223372036854775808

/-- The greatest integer that fits, one less than two to the power of sixty-three. -/
def greatestInteger : Int := 9223372036854775807

/-- An integer fits when it lies between the least and the greatest one. -/
def Representable (n : Int) : Prop := leastInteger ≤ n ∧ n ≤ greatestInteger

instance (n : Int) : Decidable (Representable n) :=
  inferInstanceAs (Decidable (_ ∧ _))

/-- Keep an exact integer that fits and refuse any other. -/
def narrow? (n : Int) : Option Int := if Representable n then some n else none

theorem narrow?_eq_some_iff {n kept : Int} :
    narrow? n = some kept ↔ Representable n ∧ n = kept := by
  simp [narrow?]

theorem narrow?_eq_none_iff {n : Int} : narrow? n = none ↔ ¬ Representable n := by
  simp [narrow?]

/-- A natural number can only be too large to fit. -/
theorem representable_natCast {n : Nat} : Representable (n : Int) ↔ (n : Int) ≤ greatestInteger := by
  unfold Representable leastInteger
  omega

/-- Division toward zero by a positive number never leaves the range. -/
theorem Representable.tdiv {n divisor : Int} (hn : Representable n) (hdivisor : 0 < divisor) :
    Representable (n.tdiv divisor) := by
  obtain ⟨hleast, hgreatest⟩ := hn
  unfold Representable leastInteger greatestInteger at *
  rcases Int.le_total 0 n with hnonneg | hnonpos
  · have hlower := Int.tdiv_nonneg hnonneg (Int.le_of_lt hdivisor)
    have hupper := Int.tdiv_le_self divisor hnonneg
    omega
  · have hnegated : 0 ≤ -n := Int.neg_nonneg_of_nonpos hnonpos
    have hlower := Int.tdiv_nonneg hnegated (Int.le_of_lt hdivisor)
    have hupper := Int.tdiv_le_self divisor hnegated
    rw [Int.neg_tdiv] at hlower hupper
    omega

end LineCalculator
