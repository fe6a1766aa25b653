/-!
# Operators

The four operators of a line, the symbols that write them, the level at which each
one binds and the exact operation that each one denotes on unbounded integers.
-/

namespace LineCalculator

/-- The four binary operators. -/
inductive Operator where
  | add
  | subtract
  | multiply
  | divide
  deriving DecidableEq

/-- The two levels of binding; operators of the product level bind tighter. -/
inductive Level where
  | sum
  | product
  deriving DecidableEq

namespace Operator

/-- The character that writes an operator. -/
def symbol : Operator → Char
  | add => '+'
  | subtract => '-'
  | multiply => '*'
  | divide => '/'

/-- The operator that a character writes, if it writes one. -/
def ofSymbol? : Char → Option Operator
  | '+' => some add
  | '-' => some subtract
  | '*' => some multiply
  | '/' => some divide
  | _ => none

/-- The level at which an operator binds. -/
def level : Operator → Level
  | add => .sum
  | subtract => .sum
  | multiply => .product
  | divide => .product

/-- The operation on unbounded integers; division drops the fraction, toward zero. -/
def exact : Operator → Int → Int → Int
  | add, lhs, rhs => lhs + rhs
  | subtract, lhs, rhs => lhs - rhs
  | multiply, lhs, rhs => lhs * rhs
  | divide, lhs, rhs => lhs.tdiv rhs

@[simp] theorem ofSymbol?_symbol (op : Operator) : ofSymbol? op.symbol = some op := by
  cases op <;> rfl

theorem symbol_of_ofSymbol?_eq_some {c : Char} {op : Operator} (h : ofSymbol? c = some op) :
    op.symbol = c := by
  unfold ofSymbol? at h
  split at h <;> simp_all [symbol] <;> subst h <;> rfl

/-- Exactly the symbols are read as operators. -/
theorem ofSymbol?_eq_some_iff {c : Char} {op : Operator} :
    ofSymbol? c = some op ↔ c = op.symbol :=
  ⟨fun h => (symbol_of_ofSymbol?_eq_some h).symm, fun h => h ▸ ofSymbol?_symbol op⟩

end Operator

end LineCalculator
