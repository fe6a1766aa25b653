import LineCalculator.Lookahead

/-!
# Evaluation

An evaluation is a computation that reads ahead in a line and either gives a value
or meets a fault.  A fault leaves the lookahead where it was met, and reading can go
on from there.

No evaluation moves away from the end of the line; this is what makes loops over the
rest of a line end.
-/

namespace LineCalculator

/-- A computation that reads ahead in a line and can meet a fault. -/
abbrev Evaluation := EStateM Fault Lookahead

namespace Evaluation

/-- What a finished computation gives. -/
def outcome {α : Type} : EStateM.Result Fault Lookahead α → Except Fault α
  | .ok a _ => .ok a
  | .error fault _ => .error fault

/-- The state that a finished computation leaves, whether it succeeds or fails. -/
def stateAfter {α : Type} : EStateM.Result Fault Lookahead α → Lookahead
  | .ok _ s => s
  | .error _ s => s

/-- A computation that never moves away from the end of the line. -/
def Advances {α : Type} (x : Evaluation α) : Prop :=
  ∀ s : Lookahead, (stateAfter (x.run s)).remaining ≤ s.remaining

theorem Advances.bind {α β : Type} {x : Evaluation α} {f : α → Evaluation β}
    (hx : Advances x) (hf : ∀ a, Advances (f a)) : Advances (x >>= f) := by
  intro s
  have hfirst := hx s
  rw [EStateM.run_bind]
  cases hrun : x.run s with
  | ok a s' =>
      rw [hrun] at hfirst
      exact Nat.le_trans (hf a s') hfirst
  | error fault s' =>
      rw [hrun] at hfirst
      exact hfirst

/-- Changing what a computation gives changes neither its faults nor its states. -/
theorem run_map {α β : Type} (f : α → β) (x : Evaluation α) (s : Lookahead) :
    (f <$> x).run s =
      match x.run s with
      | .ok a s' => .ok (f a) s'
      | .error fault s' => .error fault s' := by
  rw [map_eq_pure_bind, EStateM.run_bind]
  cases x.run s <;> rfl

/-- Consume the current token if it is of the given category, and fail without moving
otherwise. -/
def expect (category : Category) : Evaluation Token := do
  let s ← get
  if s.current.token.category = category then
    set s.advance
    return s.current.token
  else
    throw (.unexpected category s.current.token s.current.column)

theorem run_expect (category : Category) (s : Lookahead) :
    (expect category).run s =
      if s.current.token.category = category then .ok s.current.token s.advance
      else .error (.unexpected category s.current.token s.current.column) s := by
  unfold expect
  rw [EStateM.run_bind, EStateM.run_get]
  dsimp only
  split <;> rfl

/-- Where a token is only required, its place is left behind and it is not given. -/
theorem run_discard_expect (category : Category) (s : Lookahead) :
    (discard <| expect category).run s =
      if s.current.token.category = category then .ok () s.advance
      else .error (.unexpected category s.current.token s.current.column) s := by
  rw [discard, map_const, Function.comp_apply, run_map, run_expect]
  by_cases hcategory : s.current.token.category = category
  · rw [if_pos hcategory, if_pos hcategory]
  · rw [if_neg hcategory, if_neg hcategory]

end Evaluation

end LineCalculator
