import LineCalculator.Formula

/-!
# The syntax tree of an expression

An expression is a chain of numbers joined by operators, and it has one tree.  The tree
is described in two ways here, and both are shown to be the same.

* The grammar: a term is a number, or a term and a number joined by an operator of the
  product level; an expression is a term, or an expression and a term joined by an
  operator of the sum level.  So products bind tighter than sums, and every operator
  associates to the left.
* The construction `Formula.ofChain`, which lets the tree grow one operator at a time.

`grammatical_iff_exists_ofChain` says that the trees of the grammar are exactly those
that are constructed, `spelling_ofChain` that the tree of a chain is written as that
chain, and `Grammatical.eq_of_spelling_eq` that the grammar is unambiguous.
-/

namespace LineCalculator

namespace Token

/-- The tokens of a first number and the operators and numbers behind it. -/
def chain (first : Int) (more : List (Operator × Int)) : List Token :=
  .number first :: more.flatMap fun step => [.operator step.1, .number step.2]

/-- Different chains are written with different tokens. -/
theorem chain_injective {first first' : Int} {more more' : List (Operator × Int)}
    (h : chain first more = chain first' more') : first = first' ∧ more = more' := by
  unfold chain at h
  obtain ⟨hfirst, hmore⟩ := List.cons.inj h
  refine ⟨Token.number.inj hfirst, ?_⟩
  clear h hfirst
  induction more generalizing more' with
  | nil => cases more' <;> simp_all
  | cons step steps ih =>
      cases more' with
      | nil => simp at hmore
      | cons step' steps' =>
          simp only [List.flatMap_cons, List.cons_append, List.nil_append, List.cons.injEq,
            Token.operator.injEq, Token.number.injEq] at hmore
          obtain ⟨hop, hnumber, hrest⟩ := hmore
          rw [Prod.ext hop hnumber, ih hrest]

/-- Numbers and operators by turns, from a number to a number.  Only the categories
count, so an oversized literal stands for a number here. -/
inductive Alternates : List Token → Prop
  | number {token : Token} (hnumber : token.category = .number) : Alternates [token]
  | more {token : Token} {op : Operator} {tokens : List Token}
      (hnumber : token.category = .number) (hmore : Alternates tokens) :
      Alternates (token :: .operator op :: tokens)

/-- An operator joins two alternating sequences into one. -/
theorem Alternates.append {front back : List Token} (op : Operator) (hfront : Alternates front)
    (hback : Alternates back) : Alternates (front ++ .operator op :: back) := by
  induction hfront with
  | number hnumber => exact .more hnumber hback
  | more hnumber _ ih => exact .more hnumber ih

/-- An alternating sequence goes on behind another one only with an operator. -/
theorem Alternates.exists_operator {front rest : List Token} {next : Token}
    (hfront : Alternates front) (hwhole : Alternates (front ++ next :: rest)) :
    ∃ op, next = .operator op := by
  induction hfront with
  | number _ =>
      cases hwhole with
      | more _ _ => exact ⟨_, rfl⟩
  | more _ _ ih =>
      cases hwhole with
      | more _ hmore => exact ih hmore

end Token

namespace Formula

/-- The tokens that write a formula, an operator between its operands. -/
def spelling : Formula → List Token
  | number n => [.number n]
  | combined op lhs rhs => lhs.spelling ++ .operator op :: rhs.spelling

/-- A term: numbers joined from the left by operators of the product level. -/
inductive IsTerm : Formula → Prop
  | number (n : Int) : IsTerm (number n)
  | combined {op : Operator} {lhs : Formula} (n : Int) (hlevel : op.level = .product)
      (hlhs : IsTerm lhs) : IsTerm (combined op lhs (number n))

/-- An expression: terms joined from the left by operators of the sum level. -/
inductive Grammatical : Formula → Prop
  | term {formula : Formula} (hterm : IsTerm formula) : Grammatical formula
  | combined {op : Operator} {lhs rhs : Formula} (hlevel : op.level = .sum)
      (hlhs : Grammatical lhs) (hrhs : IsTerm rhs) : Grammatical (combined op lhs rhs)

theorem alternates_spelling (formula : Formula) : Token.Alternates formula.spelling := by
  induction formula with
  | number n => exact .number rfl
  | combined op lhs rhs ihlhs ihrhs => exact ihlhs.append op ihrhs

/-- Growing a tree writes the operator and its operand behind the tree. -/
theorem spelling_attach (formula : Formula) (op : Operator) (n : Int) :
    (formula.attach (op, n)).spelling = formula.spelling ++ [.operator op, .number n] := by
  cases formula with
  | number m => rfl
  | combined joint lhs rhs =>
      rw [attach]
      split
      · simp [spelling]
      · simp [spelling]

theorem spelling_foldl_attach (steps : List (Operator × Int)) (formula : Formula) :
    (steps.foldl attach formula).spelling =
      formula.spelling ++ steps.flatMap fun step => [.operator step.1, .number step.2] := by
  induction steps generalizing formula with
  | nil => simp
  | cons step steps ih =>
      obtain ⟨op, n⟩ := step
      rw [List.foldl_cons, ih, spelling_attach, List.flatMap_cons, List.append_assoc]

/-- The tree of a chain is written as that chain. -/
theorem spelling_ofChain (first : Int) (more : List (Operator × Int)) :
    (ofChain first more).spelling = Token.chain first more :=
  spelling_foldl_attach more (number first)

/-- The level of the operator at the root of a term. -/
theorem IsTerm.level_eq {op : Operator} {lhs rhs : Formula}
    (hterm : IsTerm (Formula.combined op lhs rhs)) : op.level = .product := by
  cases hterm with
  | combined n hlevel _ => exact hlevel

/-- An expression without sums is a term. -/
theorem Grammatical.isTerm {formula : Formula} (hformula : formula.Grammatical)
    (hproducts : ∀ op, Token.operator op ∈ formula.spelling → op.level = .product) :
    IsTerm formula := by
  cases hformula with
  | term hterm => exact hterm
  | @combined op lhs rhs hlevel _ _ =>
      have hproduct := hproducts op (by simp [spelling])
      rw [hlevel] at hproduct
      cases hproduct

/-- Products of numbers that are not negative are not negative. -/
theorem IsTerm.value_nonneg {formula : Formula} (hterm : IsTerm formula)
    (hnumbers : ∀ n, Token.number n ∈ formula.spelling → 0 ≤ n) : 0 ≤ formula.value := by
  induction hterm with
  | number n => exact hnumbers n (by simp [spelling])
  | @combined op lhs n hlevel _ ih =>
      have hlhs : 0 ≤ lhs.value := ih fun m hm => hnumbers m (by simp [spelling, hm])
      have hn : 0 ≤ n := hnumbers n (by simp [spelling])
      cases op with
      | add => cases hlevel
      | subtract => cases hlevel
      | multiply => exact Int.mul_nonneg hlhs hn
      | divide => exact Int.tdiv_nonneg hlhs hn

/-- An operator of the sum level takes the whole tree so far as its left operand. -/
theorem attach_of_sum (formula : Formula) {op : Operator} (n : Int) (hlevel : op.level = .sum) :
    formula.attach (op, n) = combined op formula (number n) := by
  cases formula with
  | number m => rfl
  | combined joint lhs rhs => simp [attach, hlevel]

/-- Any operator behind a term takes the whole term as its left operand. -/
theorem attach_of_isTerm {formula : Formula} (hterm : IsTerm formula) (op : Operator) (n : Int) :
    formula.attach (op, n) = combined op formula (number n) := by
  cases formula with
  | number m => rfl
  | combined joint lhs rhs =>
      -- The root of a term is a product, so nothing in the tree gives way to the operator.
      have hjoint : joint.level ≠ .sum := by simp [hterm.level_eq]
      simp [attach, hjoint]

/-- An operator of the product level behind a sum takes only the last term. -/
theorem attach_of_product {joint op : Operator} {lhs rhs : Formula} (n : Int)
    (hjoint : joint.level = .sum) (hlevel : op.level = .product) :
    (combined joint lhs rhs).attach (op, n) = combined joint lhs (combined op rhs (number n)) := by
  simp [attach, hjoint, hlevel]

/-- Growing a tree of the grammar gives a tree of the grammar. -/
theorem Grammatical.attach {formula : Formula} (hformula : formula.Grammatical) (op : Operator)
    (n : Int) : (formula.attach (op, n)).Grammatical := by
  cases hlevel : op.level with
  | sum =>
      rw [attach_of_sum formula n hlevel]
      exact .combined hlevel hformula (.number n)
  | product =>
      cases hformula with
      | term hterm =>
          rw [attach_of_isTerm hterm]
          exact .term (.combined n hlevel hterm)
      | combined hjoint hlhs hrhs =>
          rw [attach_of_product n hjoint hlevel]
          exact .combined hjoint hlhs (.combined n hlevel hrhs)

theorem Grammatical.foldl_attach (steps : List (Operator × Int)) {formula : Formula}
    (hformula : formula.Grammatical) : (steps.foldl Formula.attach formula).Grammatical := by
  induction steps generalizing formula with
  | nil => exact hformula
  | cons step steps ih => exact ih (hformula.attach step.1 step.2)

/-- Every constructed tree is one of the grammar. -/
theorem grammatical_ofChain (first : Int) (more : List (Operator × Int)) :
    (ofChain first more).Grammatical :=
  Grammatical.foldl_attach more (.term (.number first))

/-- One more step of a chain is one more step of the construction. -/
theorem ofChain_concat (first : Int) (more : List (Operator × Int)) (op : Operator) (n : Int) :
    ofChain first (more ++ [(op, n)]) = (ofChain first more).attach (op, n) := by
  simp [ofChain, List.foldl_append]

/-- Every term is constructed. -/
theorem IsTerm.exists_ofChain {formula : Formula} (hterm : IsTerm formula) :
    ∃ first more, formula = ofChain first more := by
  induction hterm with
  | number n => exact ⟨n, [], rfl⟩
  | @combined op lhs n _ hlhs ih =>
      obtain ⟨first, more, rfl⟩ := ih
      exact ⟨first, more ++ [(op, n)], by rw [ofChain_concat, attach_of_isTerm hlhs]⟩

/-- A term behind a constructed tree makes a constructed tree: the operator of the sum
level brings the first number of the term, and its products follow one by one. -/
theorem IsTerm.exists_ofChain_combined {joint : Operator} {rhs : Formula}
    (hjoint : joint.level = .sum) (first : Int) (before : List (Operator × Int))
    (hterm : IsTerm rhs) :
    ∃ more, Formula.combined joint (ofChain first before) rhs = ofChain first more := by
  induction hterm with
  | number n => exact ⟨before ++ [(joint, n)], by rw [ofChain_concat, attach_of_sum _ n hjoint]⟩
  | @combined op lhs n hlevel _ ih =>
      obtain ⟨more, hmore⟩ := ih
      exact ⟨more ++ [(op, n)], by rw [ofChain_concat, ← hmore, attach_of_product n hjoint hlevel]⟩

/-- The trees of the grammar are exactly the constructed ones. -/
theorem grammatical_iff_exists_ofChain {formula : Formula} :
    formula.Grammatical ↔ ∃ first more, formula = ofChain first more := by
  constructor
  · intro hformula
    induction hformula with
    | term hterm => exact hterm.exists_ofChain
    | combined hlevel _ hrhs ih =>
        obtain ⟨first, before, rfl⟩ := ih
        obtain ⟨more, hmore⟩ := hrhs.exists_ofChain_combined hlevel first before
        exact ⟨first, more, hmore⟩
  · rintro ⟨first, more, rfl⟩
    exact grammatical_ofChain first more

/-- The grammar is unambiguous: the tokens of an expression determine its tree. -/
theorem Grammatical.eq_of_spelling_eq {formula other : Formula} (hformula : formula.Grammatical)
    (hother : other.Grammatical) (hspelling : formula.spelling = other.spelling) :
    formula = other := by
  obtain ⟨first, more, rfl⟩ := grammatical_iff_exists_ofChain.1 hformula
  obtain ⟨first', more', rfl⟩ := grammatical_iff_exists_ofChain.1 hother
  rw [spelling_ofChain, spelling_ofChain] at hspelling
  obtain ⟨rfl, rfl⟩ := Token.chain_injective hspelling
  rfl

end Formula

end LineCalculator
