import Substitution.Proofs.Except
import Substitution.Proofs.Template.NormalForm

/-!
# When rendering fails

The captures that a template is rendered on matter to its success by their number alone. Given `n`
of them, what fails is the first reference to a group beyond the first `n`, and
`Substitution.Template.firstBeyond?` looks for it. There is one exactly if the greatest reference is
beyond them (`Substitution.Template.isSome_firstBeyond?_iff`), so a template can be rendered on
every list of captures that is long enough and on no other.
-/

namespace Substitution

/-- A segment fails if it refers to a group beyond the captures. -/
theorem Segment.render_eq_error_iff {segment : Segment} {captures : List Text}
    {e : UnknownReference} :
    segment.render captures = .error e ↔
      captures.length < segment.number ∧ e = ⟨segment.number, captures.length⟩ := by
  cases segment with
  | literal text => simp [render, number]
  | reference index =>
    rw [render, number, Nat.lt_succ_iff, ← List.getElem?_eq_none_iff]
    cases captures[index]? with
    | some text => simp
    | none => simp [eq_comm]

namespace Template

/-- The number of the first group that a template refers to beyond the first `n` groups. -/
def firstBeyond? (t : Template) (n : Nat) : Option Nat :=
  (t.segments.map Segment.number).find? (n < ·)

theorem firstBeyond?_cons (segment : Segment) (rest : List Segment) (n : Nat) :
    firstBeyond? ⟨segment :: rest⟩ n =
      if n < segment.number then some segment.number else firstBeyond? ⟨rest⟩ n := by
  rw [firstBeyond?, List.map_cons, List.find?_cons]
  by_cases h : n < segment.number <;> simp [h, firstBeyond?]

/-- **A reference is beyond the first `n` groups exactly if the greatest one is.** -/
theorem isSome_firstBeyond?_iff {t : Template} {n : Nat} :
    (t.firstBeyond? n).isSome ↔ n < t.maxReference := by
  obtain ⟨segments⟩ := t
  induction segments with
  | nil => simp [firstBeyond?, maxReference]
  | cons segment rest ih =>
    rw [firstBeyond?_cons, maxReference_cons]
    split
    · next h => exact iff_of_true rfl (Nat.lt_of_lt_of_le h (Nat.le_max_left _ _))
    · next h =>
      rw [ih]
      omega

/-- **Rendering fails at the first reference beyond the captures**, and says how many captures there
are. -/
theorem render_eq_error_iff {t : Template} {captures : List Text} {e : UnknownReference} :
    t.render captures = .error e ↔
      ∃ number, t.firstBeyond? captures.length = some number ∧ e = ⟨number, captures.length⟩ := by
  obtain ⟨segments⟩ := t
  induction segments with
  | nil => simp [firstBeyond?, render, pure, Except.pure, Except.map]
  | cons segment rest ih =>
    rw [render_cons, firstBeyond?_cons]
    by_cases h : captures.length < segment.number
    · rw [Segment.render_eq_error_iff.mpr ⟨h, rfl⟩, if_pos h]
      simp [bind, Except.bind, eq_comm]
    · obtain ⟨text, htext⟩ : ∃ text, segment.render captures = .ok text :=
        Except.exists_eq_ok_iff.mpr fun e he => h (Segment.render_eq_error_iff.mp he).1
      rw [htext, if_neg h, ← ih]
      exact Except.map_eq_error_iff

/-- A template is literal if it refers to no group. -/
theorem isLiteral_iff {t : Template} : t.isLiteral = true ↔ t.maxReference = 0 := by
  obtain ⟨segments⟩ := t
  induction segments with
  | nil => simp [isLiteral, maxReference]
  | cons segment rest ih =>
    rw [isLiteral_cons, maxReference_cons, Bool.and_eq_true, ih]
    cases segment <;> simp [Segment.isLiteral, Segment.number]

end Template

end Substitution
