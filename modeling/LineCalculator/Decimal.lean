/-!
# Decimal text

Numbers are written in base ten without leading zeros, a negative one behind a
minus sign.  A run of digits is read in base ten with any number of leading zeros;
reading the written digits of a number gives the number back.
-/

namespace LineCalculator.Decimal

/-- The digits of a natural number, the most significant first. -/
def digits (n : Nat) : List Char := Nat.toDigits 10 n

/-- The natural number that a run of decimal digits denotes. -/
def value (run : List Char) : Nat := Nat.ofDigitChars 10 run 0

/-- The text of a natural number. -/
def ofNat (n : Nat) : String := String.ofList (digits n)

/-- The text of an integer. -/
def ofInt : Int → String
  | .ofNat n => ofNat n
  | .negSucc n => "-" ++ ofNat (n + 1)

@[simp] theorem value_digits (n : Nat) : value (digits n) = n :=
  Nat.ofDigitChars_toDigits (by decide) (by decide)

theorem isDigit_of_mem_digits {n : Nat} {c : Char} (hmem : c ∈ digits n) : c.isDigit = true :=
  Nat.isDigit_of_mem_toDigits (by decide) (by decide) hmem

theorem digits_ne_nil (n : Nat) : digits n ≠ [] := Nat.toDigits_ne_nil

end LineCalculator.Decimal
