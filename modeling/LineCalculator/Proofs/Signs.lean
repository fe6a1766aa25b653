import LineCalculator.Proofs.Failures
import LineCalculator.Proofs.Location
import LineCalculator.Proofs.Unread

/-!
# Signs

A line has no negative literals, so factors and terms are never negative, whatever sign an
expression has.  Every combination therefore has a right operand that is not negative, and a
product has a left one of that kind as well.

This holds of the combination at which an evaluation fails, and of those on record, which have
succeeded.  The invariant is on the whole record of a state, and every request keeps it.

Main statement: `standsSigned_reached`.
-/

namespace LineCalculator

open Evaluation Formula Scanner Segmentation

namespace Operator

/-- The signs of the operands: the right one is not negative, and neither is the left one of a
product. -/
def Signed (op : Operator) (lhs rhs : Int) : Prop := 0 ≤ rhs ∧ (op.level = .product → 0 ≤ lhs)

/-- The exact result leaves the range, for each operator on its own side.  No quotient does. -/
def Exceeds : Operator → Int → Int → Prop
  | add, lhs, rhs => greatestInteger < lhs + rhs
  | subtract, lhs, rhs => lhs - rhs < leastInteger
  | multiply, lhs, rhs => greatestInteger < lhs * rhs
  | divide, _, _ => False

variable {op : Operator} {lhs rhs : Int}

/-- Products of operands that are not negative are not negative. -/
theorem Signed.exact_nonneg (hsigned : op.Signed lhs rhs) (hlevel : op.level = .product) :
    0 ≤ op.exact lhs rhs := by
  obtain ⟨hrhs, hlhs⟩ := hsigned
  cases op with
  | add => cases hlevel
  | subtract => cases hlevel
  | multiply => exact Int.mul_nonneg (hlhs hlevel) hrhs
  | divide => exact Int.tdiv_nonneg (hlhs hlevel) hrhs

/-- A result that does not fit has left the range on the side of its operator. -/
theorem Signed.exceeds (hsigned : op.Signed lhs rhs) (hlhs : Representable lhs)
    (hdivisor : ¬ (op = divide ∧ rhs = 0)) (hfits : ¬ Representable (op.exact lhs rhs)) :
    op.Exceeds lhs rhs := by
  obtain ⟨hrhs, hproduct⟩ := hsigned
  have hlhs' := hlhs
  unfold Representable at hlhs' hfits
  cases op with
  | add =>
      show greatestInteger < lhs + rhs
      simp only [exact] at hfits
      omega
  | subtract =>
      show lhs - rhs < leastInteger
      simp only [exact] at hfits
      omega
  | multiply =>
      have hnonneg : 0 ≤ lhs * rhs := Int.mul_nonneg (hproduct rfl) hrhs
      have hleast : leastInteger ≤ 0 := by decide
      show greatestInteger < lhs * rhs
      simp only [exact] at hfits
      omega
  | divide =>
      have hpositive : 0 < rhs := by
        have hnonzero : rhs ≠ 0 := fun hzero => hdivisor ⟨rfl, hzero⟩
        omega
      exact absurd (hlhs.tdiv hpositive) hfits

end Operator

/-- The operands of a combination have the signs that its operator asks for. -/
def Event.Signed : Event → Prop
  | combined lhs op rhs _ => op.Signed lhs rhs
  | _ => True

namespace Formula

variable {entry : Nat → Lexeme} {formula : Formula} {start stop : Nat}

/-- The numbers of a formula are literals where it is written. -/
theorem WrittenBy.nonneg_of_mem (hliterals : Literals entry)
    (hwritten : formula.WrittenBy entry start stop) {n : Int}
    (hmem : Token.number n ∈ formula.spelling) : 0 ≤ n := by
  induction formula generalizing start stop with
  | number m =>
      obtain rfl : n = m := by simpa [spelling] using hmem
      exact (hliterals _ _ hwritten.1).1
  | combined op lhs rhs ihlhs ihrhs =>
      obtain ⟨middle, hlhs, -, hrhs⟩ := hwritten
      have hcases : Token.number n ∈ lhs.spelling ∨ Token.number n ∈ rhs.spelling := by
        simpa [spelling] using hmem
      rcases hcases with hleft | hright
      · exact ihlhs hlhs hleft
      · exact ihrhs hrhs hright

/-- A term that is read is not negative. -/
theorem ReadsAs.nonneg (hliterals : Literals entry) (hterm : IsTerm formula) {n : Int}
    (hreads : ReadsAs entry formula start stop n) : 0 ≤ n := by
  rw [← hreads.value_eq]
  exact hterm.value_nonneg fun m hm => hreads.written.nonneg_of_mem hliterals hm

theorem ReadsAs.bounds (hliterals : Literals entry) (hterm : IsTerm formula) {n : Int}
    (hreads : ReadsAs entry formula start stop n) : 0 ≤ n ∧ n ≤ greatestInteger := by
  have hfits := hreads.sound.representable_value
  rw [hreads.value_eq] at hfits
  exact ⟨hreads.nonneg hliterals hterm, hfits.2⟩

end Formula

namespace Evaluation

variable {entry : Nat → Lexeme}

/-! Values and combinations of a course. -/

/-- What a course gives is not negative. -/
def Nonneg (course : Course) : Prop :=
  ∀ ⦃start n events stop⦄, course start (.ok n) events stop → 0 ≤ n

/-- A course puts combinations on record with operands of the right signs. -/
def RecordsSigned (course : Course) : Prop :=
  ∀ ⦃start result events stop⦄, course start result events stop → ∀ event ∈ events, event.Signed

theorem nonneg_factorCourse (hliterals : Literals entry) : Nonneg (FactorCourse entry) :=
  fun _ n _ _ hcourse => (hcourse.readsAs hliterals).nonneg hliterals (.number n)

theorem nonneg_termCourse (hliterals : Literals entry) : Nonneg (TermCourse entry) := by
  intro start n events stop hcourse
  obtain ⟨term, hterm, hreads⟩ := hcourse.readsAs hliterals
  exact hreads.nonneg hliterals hterm

theorem recordsSigned_factorCourse : RecordsSigned (FactorCourse entry) := by
  intro start result events stop hcourse
  cases hcourse with
  | number _ => exact List.forall_mem_singleton.2 trivial
  | oversized _ => exact List.forall_mem_singleton.2 trivial
  | unexpected _ => exact List.forall_mem_nil _

/-- The induction is on the course.  In a chain of products the value so far stays as it begins:
it is not negative. -/
theorem recordsSigned_chainCourse {operand : Course} {level : Level} (hvalues : Nonneg operand)
    (hoperand : RecordsSigned operand) {lhs : Int} (hlhs : level = .product → 0 ≤ lhs) :
    RecordsSigned (ChainCourse entry operand level lhs) := by
  intro start result events stop hcourse
  induction hcourse with
  | done _ => exact List.forall_mem_nil _
  | operandFault _ _ hfault => exact List.forall_mem_cons.2 ⟨trivial, hoperand hfault⟩
  | combineFault _ _ hvalue _ => exact List.forall_mem_cons.2 ⟨trivial, hoperand hvalue⟩
  | @step _ _ _ lhs rhs result op _ _ _ _ _ hlevel hvalue hcombine _ ih =>
      have hsigned : op.Signed lhs rhs := ⟨hvalues hvalue, fun hproduct =>
        hlhs (hlevel.symm.trans hproduct)⟩
      obtain ⟨-, -, rfl⟩ := Operator.combine_eq_ok_iff.1 hcombine
      have hmore := ih fun hproduct => hsigned.exact_nonneg (hlevel.trans hproduct)
      rw [List.forall_mem_append]
      exact ⟨List.forall_mem_cons.2 ⟨trivial, hoperand hvalue⟩,
        List.forall_mem_cons.2 ⟨hsigned, hmore⟩⟩

theorem recordsSigned_joinedCourse {operand : Course} {level : Level} (hvalues : Nonneg operand)
    (hoperand : RecordsSigned operand) :
    RecordsSigned (JoinedCourse entry operand level) := by
  intro start result events stop hcourse
  cases hcourse with
  | fault hfault => exact hoperand hfault
  | chain hvalue hchain =>
      rw [List.forall_mem_append]
      exact ⟨hoperand hvalue,
        recordsSigned_chainCourse hvalues hoperand (fun _ => hvalues hvalue) hchain⟩

theorem recordsSigned_termCourse (hliterals : Literals entry) :
    RecordsSigned (TermCourse entry) :=
  recordsSigned_joinedCourse (nonneg_factorCourse hliterals) recordsSigned_factorCourse

theorem recordsSigned_expressionCourse (hliterals : Literals entry) :
    RecordsSigned (ExpressionCourse entry) :=
  recordsSigned_joinedCourse (nonneg_termCourse hliterals) (recordsSigned_termCourse hliterals)

/-- An operator that is applied has operands of the right signs, also where it then fails. -/
theorem Applied.signed {first sign stop : Nat} {op : Operator} {column : Column}
    {lhs rhs : Formula} (happlied : Applied entry first sign stop op column lhs rhs)
    (hliterals : Literals entry) : op.Signed lhs.value rhs.value := by
  have hleft : ReadsAs entry lhs first sign lhs.value :=
    ⟨happlied.left_written, happlied.left_sound, rfl⟩
  have hright : ReadsAs entry rhs (sign + 1) stop rhs.value :=
    ⟨happlied.right_written, happlied.right_sound, rfl⟩
  cases happlied.grammatical with
  | term hterm =>
      cases hterm with
      | combined n _ hlhs =>
          exact ⟨hright.nonneg hliterals (.number n), fun _ => hleft.nonneg hliterals hlhs⟩
  | combined hlevel _ hrhs =>
      refine ⟨hright.nonneg hliterals hrhs, fun hproduct => ?_⟩
      rw [hlevel] at hproduct
      cases hproduct

/-! The record of a state. -/

/-- A state stands at an entry, and the combinations on its record have operands of the right
signs. -/
structure StandsSigned (entry : Nat → Lexeme) (s : Lookahead) : Prop where
  at_index : ∃ index, s.At entry index
  signed : ∀ event ∈ s.log.toList, event.Signed

theorem StandsSigned.advance {s : Lookahead} (hs : StandsSigned entry s) :
    StandsSigned entry s.advance := by
  obtain ⟨⟨index, hat⟩, hsigned⟩ := hs
  refine ⟨⟨_, hat.advance⟩, ?_⟩
  rw [hat.log_advance, List.forall_mem_append]
  exact ⟨hsigned, List.forall_mem_singleton.2 trivial⟩

theorem StandsSigned.record_totalled {s : Lookahead} (hs : StandsSigned entry s) (n : Int) :
    StandsSigned entry (s.record (.totalled n)) := by
  obtain ⟨⟨index, hat⟩, hsigned⟩ := hs
  refine ⟨⟨_, hat.record _⟩, ?_⟩
  rw [Lookahead.log_record, List.forall_mem_append]
  exact ⟨hsigned, List.forall_mem_singleton.2 trivial⟩

theorem Takes.keeps_standsSigned {x : Evaluation Int} {course : Course} (hx : Takes entry x course)
    (hrecords : RecordsSigned course) : Keeps (StandsSigned entry) x := by
  rintro s ⟨⟨start, hat⟩, hsigned⟩
  obtain ⟨events, stop, hcourse, hstop, hlog⟩ := hx s start hat
  refine ⟨⟨stop, hstop⟩, ?_⟩
  rw [hlog, List.forall_mem_append]
  exact ⟨hsigned, hrecords hcourse⟩

theorem Keeps.map {property : Lookahead → Prop} {α β : Type} (f : α → β) {x : Evaluation α}
    (hx : Keeps property x) : Keeps property (f <$> x) := by
  intro s hs
  have hafter := hx hs
  rw [run_map]
  cases hrun : x.run s <;> rw [hrun] at hafter <;> exact hafter

theorem keeps_standsSigned_total (hliterals : Literals entry) (mode : Mode) :
    Keeps (StandsSigned entry) (total mode) := by
  intro s hs
  have hread := takes_expression.keeps_standsSigned (recordsSigned_expressionCourse hliterals) hs
  have htotalled := totalled mode s
  generalize (total mode).run s = result at htotalled
  cases htotalled with
  | fault hrun =>
      rw [hrun] at hread
      exact hread
  | lenient hrun =>
      rw [hrun] at hread
      exact hread.record_totalled _
  | strict hrun _ =>
      rw [hrun] at hread
      exact hread.advance.record_totalled _
  | leftOver hrun _ =>
      rw [hrun] at hread
      exact hread

theorem keeps_standsSigned_expect (category : Category) :
    Keeps (StandsSigned entry) (expect category) := by
  intro s hs
  rw [run_expect]
  split
  · exact hs.advance
  · exact hs

theorem keeps_standsSigned_serve (hliterals : Literals entry) (request : Request) :
    Keeps (StandsSigned entry) request.serve := by
  refine Request.forall_serve Keeps.map ?_ ?_ ?_ ?_ ?_ request
  · exact takes_factor.keeps_standsSigned recordsSigned_factorCourse
  · exact takes_term.keeps_standsSigned (recordsSigned_termCourse hliterals)
  · exact takes_expression.keeps_standsSigned (recordsSigned_expressionCourse hliterals)
  · exact keeps_standsSigned_total hliterals
  · exact keeps_standsSigned_expect

/-- What every request keeps, any number of requests keep. -/
theorem leftBy_of_keeps {property : Lookahead → Prop}
    (hserve : ∀ request : Request, Keeps property request.serve) (requests : List Request)
    {s : Lookahead} (hs : property s) : property (Evaluation.leftBy requests s) := by
  induction requests generalizing s with
  | nil => exact hs
  | cons request requests ih => exact ih (hserve request hs)

/-- In every state that can be reached on a line, the combinations on record have operands of the
right signs. -/
theorem standsSigned_reached (line : String) (reading : List Scanner.Request)
    (asked : List Evaluation.Request) :
    StandsSigned (stream line.toList) (reached line reading asked) := by
  obtain ⟨cursor, hshown⟩ := (shownBy_ofString line).leftBy reading
  have hfresh : StandsSigned (stream line.toList)
      (.ofScanner (Scanner.leftBy reading (.ofString line))) :=
    ⟨⟨_, Lookahead.at_refill #[] hshown.scan_eq⟩, List.forall_mem_singleton.2 trivial⟩
  exact leftBy_of_keeps (keeps_standsSigned_serve (literals_stream _)) asked hfresh

end Evaluation

end LineCalculator
