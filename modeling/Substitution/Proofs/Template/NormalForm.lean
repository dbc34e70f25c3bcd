import Mathlib.Data.List.Chain
import Substitution.Template.Printer

/-!
# Templates in normal form

A template is in **normal form** if none of its literal segments is empty and no two of them are
neighbours: `Substitution.Template.IsNormal`. Every template has a normal form,
`Substitution.Template.normal`, which says the same: it renders alike on all captures, with the same
error where there is one, refers to the same groups, and is literal if the template is. A template
in normal form is its own.

All of this is proved one segment at a time. Putting a segment in front of others, by
`Substitution.Template.pushSegment`, makes no difference to what can be seen of a template, and the
neighbours that it joins are the only ones that could have been in the way of a normal form.

Segments that stand for tokens are in normal form from the start, since a character is put into the
literal segment behind it: that is `pushSegment` with a literal segment of one character
(`Substitution.Template.pushChar_eq`).
-/

namespace Substitution

namespace Template

/-- **Normal form**: no literal segment is empty, and no two of them are neighbours. -/
structure IsNormal (t : Template) : Prop where
  literal_ne_nil : ∀ text, Segment.literal text ∈ t.segments → text ≠ []
  no_neighbours : t.segments.IsChain fun a b => ¬(a.isLiteral = true ∧ b.isLiteral = true)

theorem isNormal_nil : IsNormal ⟨[]⟩ := by
  refine ⟨fun text h => ?_, .nil⟩
  cases h

theorem isNormal_cons_iff {segment : Segment} {rest : List Segment} :
    IsNormal ⟨segment :: rest⟩ ↔
      segment ≠ .literal [] ∧
      (∀ next ∈ rest.head?, ¬(segment.isLiteral = true ∧ next.isLiteral = true)) ∧
      IsNormal ⟨rest⟩ := by
  constructor
  · rintro ⟨hnil, hchain⟩
    obtain ⟨hhead, hrest⟩ := List.isChain_cons.mp hchain
    refine ⟨?_, hhead, fun text h => hnil text (List.mem_cons_of_mem _ h), hrest⟩
    rintro rfl
    exact hnil [] List.mem_cons_self rfl
  · rintro ⟨hsegment, hhead, hnil, hrest⟩
    refine ⟨fun text h => ?_, List.isChain_cons.mpr ⟨hhead, hrest⟩⟩
    rcases List.mem_cons.mp h with rfl | h
    · rintro rfl
      exact hsegment rfl
    · exact hnil text h

/-! ### Putting a segment in front of others -/

@[simp] theorem pushSegment_literal_nil (segments : List Segment) :
    pushSegment (.literal []) segments = segments := by
  cases segments <;> rfl

@[simp] theorem pushSegment_reference (index : Nat) (segments : List Segment) :
    pushSegment (.reference index) segments = .reference index :: segments := by
  cases segments <;> rfl

@[simp] theorem pushSegment_literal_literal (c : Char) (text next : Text)
    (rest : List Segment) :
    pushSegment (.literal (c :: text)) (.literal next :: rest) =
      .literal (c :: text ++ next) :: rest := rfl

/-- A segment with no literal neighbour is put there as it is. -/
theorem pushSegment_eq_cons {segment : Segment} {segments : List Segment}
    (hsegment : segment ≠ .literal [])
    (h : ∀ next ∈ segments.head?, ¬(segment.isLiteral = true ∧ next.isLiteral = true)) :
    pushSegment segment segments = segment :: segments := by
  cases segment with
  | reference index => exact pushSegment_reference index segments
  | literal text =>
    cases text with
    | nil => exact absurd rfl hsegment
    | cons c text =>
      cases segments with
      | nil => rfl
      | cons next rest =>
        cases next with
        | reference index => rfl
        | literal next => exact absurd ⟨rfl, rfl⟩ (h (.literal next) rfl)

/-- A literal segment may as well be put in front of others in two parts. -/
theorem pushSegment_literal_append (a b : Text) (segments : List Segment) :
    pushSegment (.literal a) (pushSegment (.literal b) segments) =
      pushSegment (.literal (a ++ b)) segments := by
  cases a with
  | nil => rw [pushSegment_literal_nil, List.nil_append]
  | cons c a =>
    cases b with
    | nil => rw [pushSegment_literal_nil, List.append_nil]
    | cons d b =>
      cases segments with
      | nil => rfl
      | cons next rest =>
        cases next with
        | reference index => rfl
        | literal next =>
          simp only [pushSegment_literal_literal, List.cons_append, List.append_assoc]

/-- A character goes into the literal segment behind it. -/
theorem pushChar_eq (c : Char) (segments : List Segment) :
    pushChar c segments = pushSegment (.literal [c]) segments := by
  cases segments with
  | nil => rfl
  | cons next rest => cases next <;> rfl

theorem IsNormal.pushSegment {segments : List Segment} (h : IsNormal ⟨segments⟩)
    (segment : Segment) : IsNormal ⟨pushSegment segment segments⟩ := by
  by_cases hsegment : segment = .literal []
  · rwa [hsegment, pushSegment_literal_nil]
  by_cases hhead : ∀ next ∈ segments.head?, ¬(segment.isLiteral = true ∧ next.isLiteral = true)
  · rw [pushSegment_eq_cons hsegment hhead]
    exact isNormal_cons_iff.mpr ⟨hsegment, hhead, h⟩
  -- Both the segment and the one behind it are literal.
  cases segments with
  | nil => exact absurd (fun next hnext => nomatch hnext) hhead
  | cons next rest =>
    obtain ⟨hnext, hneighbours, hrest⟩ := isNormal_cons_iff.mp h
    cases segment with
    | reference index => exact absurd (fun _ _ hlit => nomatch hlit.1) hhead
    | literal text =>
      cases next with
      | reference index =>
        refine absurd (fun next hnext hlit => ?_) hhead
        obtain rfl : Segment.reference index = next := Option.some.inj hnext
        exact nomatch hlit.2
      | literal next =>
        cases text with
        | nil => exact absurd rfl hsegment
        | cons c text =>
          rw [pushSegment_literal_literal]
          exact isNormal_cons_iff.mpr ⟨by simp, hneighbours, hrest⟩

/-! ### The normal form -/

theorem normal_cons (segment : Segment) (rest : List Segment) :
    normal ⟨segment :: rest⟩ = ⟨pushSegment segment (normal ⟨rest⟩).segments⟩ := rfl

/-- **The normal form is in normal form.** -/
theorem isNormal_normal (t : Template) : (normal t).IsNormal := by
  obtain ⟨segments⟩ := t
  induction segments with
  | nil => exact isNormal_nil
  | cons segment rest ih => exact ih.pushSegment segment

/-- **A template in normal form is its own normal form.** -/
theorem IsNormal.normal_eq {t : Template} (h : t.IsNormal) : normal t = t := by
  obtain ⟨segments⟩ := t
  induction segments with
  | nil => rfl
  | cons segment rest ih =>
    obtain ⟨hsegment, hhead, hrest⟩ := isNormal_cons_iff.mp h
    rw [normal_cons, ih hrest, pushSegment_eq_cons hsegment hhead]

/-- What tokens stand for is in normal form. -/
theorem isNormal_ofTokens (tokens : List Token) : (ofTokens tokens).IsNormal := by
  induction tokens with
  | nil => exact isNormal_nil
  | cons token rest ih =>
    have hpush : ∃ segment, ofTokens (token :: rest) = ⟨pushSegment segment (segmentsOf rest)⟩ := by
      cases token with
      | plain c => exact ⟨.literal [c], congrArg mk (pushChar_eq c _)⟩
      | escaped c => exact ⟨.literal [c], congrArg mk (pushChar_eq c _)⟩
      | reference number braced =>
        exact ⟨.reference (number - 1), congrArg mk (pushSegment_reference _ _).symm⟩
    obtain ⟨segment, hsegment⟩ := hpush
    rw [hsegment]
    exact IsNormal.pushSegment ih segment

/-! ### What can be seen of a template -/

theorem render_cons (segment : Segment) (rest : List Segment) (captures : List Text) :
    render ⟨segment :: rest⟩ captures =
      segment.render captures >>= fun a => (render ⟨rest⟩ captures).map (a ++ ·) := by
  rw [render, render, List.mapM_cons]
  cases segment.render captures with
  | error e => rfl
  | ok a => cases rest.mapM (Segment.render captures) <;> rfl

theorem maxReference_cons (segment : Segment) (rest : List Segment) :
    maxReference ⟨segment :: rest⟩ = max segment.number (maxReference ⟨rest⟩) := rfl

theorem isLiteral_cons (segment : Segment) (rest : List Segment) :
    isLiteral ⟨segment :: rest⟩ = (segment.isLiteral && isLiteral ⟨rest⟩) := rfl

/-- What joining a literal segment with its neighbour or dropping an empty one leaves as it is, it
leaves as it is at the front of every list. -/
theorem pushSegment_eq_of_literal {α : Type} {f : List Segment → α}
    (hnil : ∀ segments, f (.literal [] :: segments) = f segments)
    (happend : ∀ a b segments,
      f (.literal a :: .literal b :: segments) = f (.literal (a ++ b) :: segments))
    (segment : Segment) (segments : List Segment) :
    f (pushSegment segment segments) = f (segment :: segments) := by
  cases segment with
  | reference index => rw [pushSegment_reference]
  | literal text =>
    cases text with
    | nil => rw [pushSegment_literal_nil, hnil]
    | cons c text =>
      cases segments with
      | nil => rfl
      | cons next rest =>
        cases next with
        | reference index => rfl
        | literal next => rw [pushSegment_literal_literal, happend]

theorem render_pushSegment (segment : Segment) (segments : List Segment) (captures : List Text) :
    render ⟨pushSegment segment segments⟩ captures = render ⟨segment :: segments⟩ captures := by
  refine pushSegment_eq_of_literal (f := fun l => render ⟨l⟩ captures) (fun l => ?_)
    (fun a b l => ?_) segment segments
  · rw [render_cons]
    cases render ⟨l⟩ captures <;> rfl
  · rw [render_cons, render_cons, render_cons]
    cases render ⟨l⟩ captures with
    | error e => rfl
    | ok text => exact congrArg Except.ok (List.append_assoc a b text).symm

/-- **The normal form renders as the template does**, and fails as it does. -/
theorem render_normal (t : Template) (captures : List Text) :
    (normal t).render captures = t.render captures := by
  obtain ⟨segments⟩ := t
  induction segments with
  | nil => rfl
  | cons segment rest ih =>
    rw [normal_cons, render_pushSegment, render_cons, render_cons]
    exact congrArg (fun after => segment.render captures >>= fun a => after.map (a ++ ·)) ih

/-- **The normal form refers to the same groups.** -/
theorem maxReference_normal (t : Template) : (normal t).maxReference = t.maxReference := by
  obtain ⟨segments⟩ := t
  induction segments with
  | nil => rfl
  | cons segment rest ih =>
    have hpush := pushSegment_eq_of_literal (f := fun l => maxReference ⟨l⟩)
      (fun l => Nat.zero_max _) (fun a b l => by simp [maxReference_cons, Segment.number])
      segment (normal ⟨rest⟩).segments
    rw [normal_cons, maxReference_cons, ← ih]
    exact hpush

/-- **The normal form is literal if the template is.** -/
theorem isLiteral_normal (t : Template) : (normal t).isLiteral = t.isLiteral := by
  obtain ⟨segments⟩ := t
  induction segments with
  | nil => rfl
  | cons segment rest ih =>
    have hpush := pushSegment_eq_of_literal (f := fun l => isLiteral ⟨l⟩)
      (fun l => Bool.true_and _) (fun a b l => rfl) segment (normal ⟨rest⟩).segments
    rw [normal_cons, isLiteral_cons, ← ih]
    exact hpush

end Template

end Substitution
