import Substitution.Pattern.Matcher

/-!
# What a way leaves behind

A matcher marks where groups begin and end, and when a way through the pattern is given up, the
marks are taken back, but not always all of them: what is new is taken away, and of a mark that was
there before and has been moved it depends on the place whether it is put back. This module says how
marks can change. Groups are counted from zero, and the marks of the groups in front of the `lo`-th
are the first `2 * lo` ones.

| relation | between the marks before and those |
|---|---|
| `Substitution.Marks.Advances` | behind a part of a tree that has been matched |
| `Substitution.Marks.Spares` | that are left by a way that has been given up |
| `Substitution.Marks.Resumes` | with which one goes on after such a way |

The third comes of the second by taking marks back, `Substitution.Marks.Spares.resumes_takeBack`. In
all of them a group ends where it begins or later (`Substitution.Marks.Ordered`), except for the
groups that are open: the mark for the end of such a group may be one from an earlier round.
-/

namespace Substitution

namespace Marks

/-! ### Single marks -/

/-- Where the mark with an index stands, if it has been made. -/
def mark (marks : Marks) (index : Nat) : Option Nat :=
  marks[index]?.join

theorem mark_eq_none {marks : Marks} {index : Nat} (h : marks.length ≤ index) :
    marks.mark index = none := by
  rw [mark, List.getElem?_eq_none h]
  rfl

theorem mark_take (marks : Marks) (count index : Nat) :
    mark (marks.take count) index = if index < count then marks.mark index else none := by
  rw [mark, List.getElem?_take]
  split
  · rfl
  · rfl

theorem length_put (marks : Marks) (index position : Nat) :
    (marks.put index position).length = max marks.length (index + 1) := by
  rw [put]
  split
  · rw [List.length_set]
    omega
  · simp only [List.length_append, List.length_replicate, List.length_singleton]
    omega

/-- **Making a mark makes no other one.** -/
theorem mark_put (marks : Marks) (index position other : Nat) :
    (marks.put index position).mark other =
      if other = index then some position else marks.mark other := by
  rw [put]
  split
  · next h =>
    rw [mark, List.getElem?_set]
    split
    · next heq =>
      rw [if_pos heq.symm]
      rfl
    · next hne => rw [if_neg fun heq => hne heq.symm, mark]
  · next h =>
    have hlength : (marks ++ List.replicate (index - marks.length) none).length = index := by
      rw [List.length_append, List.length_replicate]
      omega
    rw [mark]
    rcases Nat.lt_trichotomy other index with hlt | rfl | hgt
    · -- Between the marks that there were and the new one, nothing is marked.
      rw [if_neg (Nat.ne_of_lt hlt), List.getElem?_append_left (by omega), List.getElem?_append]
      split
      · rfl
      · next hother =>
        rw [List.getElem?_replicate_of_lt (by omega), mark_eq_none (Nat.le_of_not_lt hother)]
        rfl
    · rw [if_pos rfl, List.getElem?_append_right (by omega), hlength, Nat.sub_self]
      rfl
    · rw [if_neg (Nat.ne_of_gt hgt), mark_eq_none (by omega),
        List.getElem?_eq_none (by rw [List.length_append, hlength]; exact hgt)]
      rfl

theorem ends?_eq_some_iff {marks : Marks} {group a b : Nat} :
    marks.ends? group = some (a, b) ↔
      marks.mark (2 * (group - 1)) = some a ∧ marks.mark (2 * (group - 1) + 1) = some b := by
  rw [ends?, mark, mark]
  rcases marks[2 * (group - 1)]? with - | - | x <;>
    rcases marks[2 * (group - 1) + 1]? with - | - | y <;> simp

/-! ### How marks change

Groups are counted from zero here: the group `g` begins at the mark `2 * g` and ends at the next
one. -/

/-- **Every group ends where it begins or later**, but perhaps for those that are open. -/
def Ordered (opened : List Nat) (marks : Marks) : Prop :=
  ∀ g, g ∉ opened → ∀ a b, marks.mark (2 * g) = some a → marks.mark (2 * g + 1) = some b → a ≤ b

/-- **How the marks can be behind a part of a tree** whose groups are those from `lo` up to `hi`:
no other group begins elsewhere than before, and no marks behind those groups are made. -/
structure Advances (lo hi : Nat) (opened : List Nat) (before after : Marks) : Prop where
  begins : ∀ g, g < lo ∨ hi ≤ g → after.mark (2 * g) = before.mark (2 * g)
  le_length : before.length ≤ after.length
  length_le : after.length ≤ max before.length (2 * hi)
  ordered : after.Ordered opened

/-- **The marks with which one can go on** after a way has been given up: as many as there were,
with the same beginnings. -/
structure Resumes (opened : List Nat) (before after : Marks) : Prop where
  begins : ∀ g, after.mark (2 * g) = before.mark (2 * g)
  length_eq : after.length = before.length
  ordered : after.Ordered opened

/-- **What a way that is given up may leave behind**: of the marks of the first `bound` groups, as
far as they had been made, the beginnings are where they were. -/
structure Spares (opened : List Nat) (bound : Nat) (before left : Marks) : Prop where
  begins : ∀ g, 2 * g < min (2 * bound) before.length → left.mark (2 * g) = before.mark (2 * g)
  le_length : min (2 * bound) before.length ≤ left.length
  ordered : Ordered opened (left.take (min (2 * bound) before.length))

variable {opened : List Nat} {lo mid hi bound : Nat} {marks before after left : Marks}

theorem Ordered.take (h : marks.Ordered opened) (count : Nat) :
    Ordered opened (marks.take count) := by
  intro g hg a b ha hb
  rw [mark_take] at ha hb
  split at ha
  · split at hb
    · exact h g hg a b ha hb
    · cases hb
  · cases ha

theorem Advances.refl (h : marks.Ordered opened) : marks.Advances lo hi opened marks :=
  ⟨fun _ _ => rfl, Nat.le_refl _, Nat.le_max_left _ _, h⟩

theorem Advances.mono {lo' hi' : Nat} (h : before.Advances lo hi opened after) (hlo : lo' ≤ lo)
    (hhi : hi ≤ hi') : before.Advances lo' hi' opened after := by
  refine ⟨fun g hg => h.begins g ?_, h.le_length, Nat.le_trans h.length_le ?_, h.ordered⟩
  · omega
  · omega

theorem Advances.trans (h : before.Advances lo hi opened marks)
    (h' : marks.Advances lo hi opened after) : before.Advances lo hi opened after := by
  have hfirst := h.length_le
  have hsecond := h'.length_le
  refine ⟨fun g hg => (h'.begins g hg).trans (h.begins g hg),
    Nat.le_trans h.le_length h'.le_length, ?_, h'.ordered⟩
  omega

theorem Resumes.refl (h : marks.Ordered opened) : marks.Resumes opened marks :=
  ⟨fun _ => rfl, rfl, h⟩

theorem Resumes.advances (h : before.Resumes opened after) :
    before.Advances lo hi opened after :=
  ⟨fun g _ => h.begins g, Nat.le_of_eq h.length_eq.symm,
    Nat.le_trans (Nat.le_of_eq h.length_eq) (Nat.le_max_left _ _), h.ordered⟩

/-- Less is left alone than before: fewer groups, or fewer of them marked. -/
theorem Spares.mono {opened' : List Nat} {bound' : Nat} {before' : Marks}
    (h : before.Spares opened bound left)
    (hcount : min (2 * bound') before'.length ≤ min (2 * bound) before.length)
    (hbegins : ∀ g, 2 * g < min (2 * bound') before'.length →
      before.mark (2 * g) = before'.mark (2 * g))
    (hopened : ∀ g, g ∈ opened → g ∉ opened' → min (2 * bound') before'.length ≤ 2 * g) :
    before'.Spares opened' bound' left := by
  refine ⟨fun g hg => (h.begins g (by omega)).trans (hbegins g hg),
    Nat.le_trans hcount h.le_length, fun g hg a b ha hb => ?_⟩
  rw [mark_take] at ha hb
  split at ha
  · next hlt =>
    split at hb
    · next hlt' =>
      have hnot : g ∉ opened := fun hmem => absurd (hopened g hmem hg) (by omega)
      refine h.ordered g hnot a b ?_ ?_
      · rw [mark_take, if_pos (by omega), ha]
      · rw [mark_take, if_pos (by omega), hb]
    · cases hb
  · cases ha

theorem Spares.of_le {bound' : Nat} (h : before.Spares opened bound left) (hle : bound' ≤ bound) :
    before.Spares opened bound' left :=
  h.mono (by omega) (fun _ _ => rfl) fun _ hmem hnot => absurd hmem hnot

/-- What is left behind further on is left behind here. -/
theorem Spares.of_advances (h : after.Spares opened bound left)
    (hafter : before.Advances lo hi opened after) (hle : bound ≤ lo) :
    before.Spares opened bound left := by
  have hlength := hafter.le_length
  refine h.mono (by omega) (fun g hg => hafter.begins g (.inl ?_)) fun _ hmem hnot =>
    absurd hmem hnot
  omega

theorem Spares.of_resumes (h : after.Spares opened bound left)
    (hafter : before.Resumes opened after) : before.Spares opened bound left :=
  h.mono (Nat.le_of_eq (by rw [hafter.length_eq])) (fun g _ => hafter.begins g)
    fun _ hmem hnot => absurd hmem hnot

theorem Advances.spares (h : before.Advances lo hi opened after) (hle : bound ≤ lo) :
    before.Spares opened bound after := by
  have hlength := h.le_length
  refine ⟨fun g hg => h.begins g (.inl ?_), ?_, h.ordered.take _⟩
  · omega
  · omega

theorem Resumes.spares (h : before.Resumes opened after) :
    before.Spares opened bound after := by
  have hadvances : before.Advances bound bound opened after := h.advances
  exact hadvances.spares (Nat.le_refl bound)

/-- **One can go on with what is taken back**, unless more marks had been made than those that are
left alone. -/
theorem Spares.resumes_takeBack {whole : Bool} (h : before.Spares opened bound left)
    (hbefore : before.Ordered opened) (hlength : whole = false → before.length ≤ 2 * bound) :
    before.Resumes opened (takeBack whole before left) := by
  cases whole with
  | true => exact .refl hbefore
  | false =>
    have hcount : min (2 * bound) before.length = before.length := Nat.min_eq_right (hlength rfl)
    obtain ⟨hbegins, hle, hordered⟩ := h
    rw [hcount] at hbegins hle hordered
    refine ⟨fun g => ?_, ?_, hordered⟩
    · change mark (left.take before.length) (2 * g) = _
      rw [mark_take]
      split
      · next hlt => exact hbegins g hlt
      · next hge => exact (mark_eq_none (Nat.le_of_not_lt hge)).symm
    · exact (List.length_take.trans (Nat.min_eq_left hle))

end Marks

/-! ### States and trials -/

/-- **What a matcher may hand on** that stands for a part of a tree with the groups from `lo` up to
`hi`. -/
structure MatchState.Reaches (lo hi : Nat) (opened : List Nat) (st next : MatchState) : Prop where
  position_le : st.position ≤ next.position
  advances : st.marks.Advances lo hi opened next.marks

/-- What comes of a trial is as it should be: a match is as `P` says, and a failure leaves alone
what it has to. -/
def Trial.Settles (opened : List Nat) (P : MatchState → Prop) (bound : Nat) (marks : Marks) :
    Trial → Prop
  | .matched out => P out
  | .failed left => marks.Spares opened bound left

section

variable {opened : List Nat} {lo mid hi bound : Nat} {st next last : MatchState}
  {P : MatchState → Prop} {marks : Marks} {t : Trial}

open MatchState (Reaches)

theorem MatchState.Reaches.refl (h : st.marks.Ordered opened) : st.Reaches lo hi opened st :=
  ⟨Nat.le_refl _, .refl h⟩

theorem MatchState.Reaches.mono {lo' hi' : Nat} (h : st.Reaches lo hi opened next) (hlo : lo' ≤ lo)
    (hhi : hi ≤ hi') : st.Reaches lo' hi' opened next :=
  ⟨h.position_le, h.advances.mono hlo hhi⟩

theorem MatchState.Reaches.trans (h : st.Reaches lo hi opened next)
    (h' : next.Reaches lo hi opened last) : st.Reaches lo hi opened last :=
  ⟨Nat.le_trans h.position_le h'.position_le, h.advances.trans h'.advances⟩

theorem MatchState.reaches_of_resumes (h : st.marks.Resumes opened marks) :
    st.Reaches lo hi opened ⟨st.position, marks⟩ :=
  ⟨Nat.le_refl _, h.advances⟩

namespace Trial

theorem Settles.imp {opened' : List Nat} {bound' : Nat} {marks' : Marks}
    (h : t.Settles opened P bound marks)
    (himp : ∀ left, marks.Spares opened bound left → marks'.Spares opened' bound' left) :
    t.Settles opened' P bound' marks' := by
  cases t with
  | matched out => exact h
  | failed left => exact himp left h

theorem Settles.of_le {bound' : Nat} (h : t.Settles opened P bound marks) (hle : bound' ≤ bound) :
    t.Settles opened P bound' marks :=
  h.imp fun _ hleft => hleft.of_le hle

theorem Settles.of_reaches (h : t.Settles opened P bound next.marks)
    (hnext : st.Reaches lo hi opened next) (hle : bound ≤ lo) :
    t.Settles opened P bound st.marks :=
  h.imp fun _ hleft => hleft.of_advances hnext.advances hle

theorem Settles.orElse {other : Marks → Trial} (h : t.Settles opened P bound marks)
    (hother : ∀ left, marks.Spares opened bound left →
      (other left).Settles opened P bound marks) :
    (t.orElse other).Settles opened P bound marks := by
  cases t with
  | matched out => exact h
  | failed left => exact hother left h

theorem Settles.andThen {Q : MatchState → Prop} {k : Continuation}
    (h : t.Settles opened Q bound marks)
    (hk : ∀ out, Q out → (k out).Settles opened P bound marks) :
    (t.andThen k).Settles opened P bound marks := by
  cases t with
  | matched out => exact hk out h
  | failed left => exact h

end Trial

end

end Substitution
