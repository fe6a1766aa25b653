import LineCalculator.Event
import LineCalculator.Representable

/-!
# Formulas

The tree that an expression stands for.  Its value is the exact one, over unbounded
integers; whether that value and all values on the way to it exist and fit is a
property of the tree.

The tree of numbers joined by operators grows one operator at a time.  An operator
of the sum level takes the whole tree so far as its left operand.  One of the product
level takes only the right operand of a sum, and the whole tree where there is no sum.
-/

namespace LineCalculator

/-- Numbers combined by operators. -/
inductive Formula where
  | number (n : Int)
  | combined (op : Operator) (lhs rhs : Formula)
  deriving DecidableEq

namespace Formula

/-- The exact value. -/
def value : Formula → Int
  | number n => n
  | combined op lhs rhs => op.exact lhs.value rhs.value

/-- Every value in the tree exists and fits. -/
def Sound : Formula → Prop
  | number n => Representable n
  | combined op lhs rhs =>
      lhs.Sound ∧ rhs.Sound ∧ ¬ (op = .divide ∧ rhs.value = 0) ∧
        Representable (op.exact lhs.value rhs.value)

instance decidableSound : (formula : Formula) → Decidable formula.Sound
  | number n => inferInstanceAs (Decidable (Representable n))
  | combined _ lhs rhs =>
      have := decidableSound lhs
      have := decidableSound rhs
      inferInstanceAs (Decidable (_ ∧ _ ∧ _ ∧ _))

/-- The value at the root of a sound formula fits. -/
theorem Sound.representable_value {formula : Formula} (hsound : formula.Sound) :
    Representable formula.value := by
  cases formula with
  | number n => exact hsound
  | combined op lhs rhs => exact hsound.2.2.2

/-- Put an operator and its right operand behind a formula. -/
def attach : Formula → Operator × Int → Formula
  | number n, (op, operand) => combined op (number n) (number operand)
  | combined joint lhs rhs, (op, operand) =>
      if op.level = .product ∧ joint.level = .sum then
        combined joint lhs (combined op rhs (number operand))
      else
        combined op (combined joint lhs rhs) (number operand)

/-- The formula of a first number and the operators and numbers behind it. -/
def ofChain (first : Int) (more : List (Operator × Int)) : Formula :=
  more.foldl attach (number first)

/-- The combinations of a formula, operands before what they are operands of. -/
def combinations : Formula → List Event
  | number _ => []
  | combined op lhs rhs =>
      lhs.combinations ++ rhs.combinations ++
        [.combined lhs.value op rhs.value (op.exact lhs.value rhs.value)]

end Formula

end LineCalculator
