import Substitution.Proofs.Template.Behaviour
import Substitution.Proofs.Template.Rendering

/-!
# What a template requires of the captures

A template asks one thing of the captures that it is rendered on: that there are as many of them as
its greatest reference says (`Substitution.Template.exists_render_eq_ok_iff`). Groups are numbered
from one and captures from zero, so this is where the two ways of counting meet: the group numbered
`n` is there exactly if there are at least `n` captures.

Where there are enough, each reference is filled with the capture at its index, letter by letter,
and no other capture is looked at (`Substitution.Template.render_eq_ok_of_le`,
`Substitution.Template.render_congr`). Where there are not, the first reference that has none is
named (`Substitution.Template.firstBeyond?_eq_some_iff`). A template is literal if it requires
nothing, which can be told from outside: it gives the same text for all captures.
-/

namespace Substitution

namespace Template

variable {t : Template} {captures others : List Text}

/-! ### Enough captures -/

theorem lt_length_of_le (h : t.maxReference ≤ captures.length) {index : Nat}
    (hindex : Segment.reference index ∈ t.segments) : index < captures.length :=
  Nat.lt_of_lt_of_le (lt_maxReference hindex) h

theorem getElem?_of_le (h : t.maxReference ≤ captures.length) {index : Nat}
    (hindex : Segment.reference index ∈ t.segments) :
    captures[index]? = some (captures.getD index []) := by
  rw [List.getD_eq_getElem?_getD, List.getElem?_eq_getElem (lt_length_of_le h hindex),
    Option.getD_some]

/-- **Where there are enough captures, each reference is filled with the one at its index.** -/
theorem render_eq_ok_of_le (h : t.maxReference ≤ captures.length) :
    t.render captures =
      .ok (t.segments.flatMap (Segment.filled fun index => captures.getD index [])) :=
  render_eq_ok_of_getElem? fun _ hindex => getElem?_of_le h hindex

/-- **A template can be rendered exactly if there are as many captures as its greatest reference
says.** -/
theorem exists_render_eq_ok_iff :
    (∃ text, t.render captures = .ok text) ↔ t.maxReference ≤ captures.length := by
  constructor
  · rintro ⟨text, htext⟩
    by_contra hlt
    obtain ⟨number, hnumber⟩ :=
      Option.isSome_iff_exists.mp (isSome_firstBeyond?_iff.mpr (Nat.not_le.mp hlt))
    have herror := render_eq_error_iff.mpr ⟨number, hnumber, rfl⟩
    rw [htext] at herror
    cases herror
  · intro h
    exact ⟨_, render_eq_ok_of_le h⟩

/-- **Only captures that are referred to matter**: the text is the same on all others that have
these. -/
theorem render_congr {text : Text} (h : t.render captures = .ok text)
    (hothers : ∀ index, Segment.reference index ∈ t.segments →
      others[index]? = captures[index]?) : t.render others = .ok text := by
  have hle := exists_render_eq_ok_iff.mp ⟨text, h⟩
  rw [render_eq_ok_of_le hle] at h
  rw [← h]
  refine render_eq_ok_of_getElem? fun index hindex => ?_
  rw [hothers index hindex, getElem?_of_le hle hindex]

/-! ### A capture that is missing -/

/-- **The first reference beyond `n` groups**: the segments before it refer to the first `n` groups
only. -/
theorem firstBeyond?_eq_some_iff {n number : Nat} :
    t.firstBeyond? n = some number ↔
      ∃ before index after, t.segments = before ++ .reference index :: after ∧ n ≤ index ∧
        (∀ segment ∈ before, segment.number ≤ n) ∧ number = index + 1 := by
  rw [firstBeyond?, List.find?_map, Option.map_eq_some_iff]
  constructor
  · rintro ⟨segment, hfind, rfl⟩
    obtain ⟨hsegment, before, after, hsegments, hbefore⟩ := List.find?_eq_some_iff_append.mp hfind
    cases segment with
    | literal text => exact absurd hsegment (by simp [Segment.number])
    | reference index =>
      refine ⟨before, index, after, hsegments, ?_, fun s hs => ?_, rfl⟩
      · exact Nat.le_of_lt_succ (of_decide_eq_true hsegment)
      · have hs := hbefore s hs
        simpa using hs
  · rintro ⟨before, index, after, hsegments, hle, hbefore, rfl⟩
    refine ⟨.reference index, List.find?_eq_some_iff_append.mpr
      ⟨decide_eq_true (Nat.lt_succ_of_le hle), before, after, hsegments, fun s hs => ?_⟩, rfl⟩
    simpa using hbefore s hs

/-! ### Templates that require nothing -/

/-- **A template is literal exactly if it gives one text, whatever the captures are.** -/
theorem isLiteral_iff_render_eq :
    t.isLiteral = true ↔ ∃ text, ∀ captures, t.render captures = .ok text := by
  rw [isLiteral_iff]
  constructor
  · intro h
    have hnone : ∀ index, Segment.reference index ∉ t.segments := by
      intro index hindex
      have hlt := lt_maxReference hindex
      omega
    have hempty : t.maxReference ≤ ([] : List Text).length := Nat.le_of_eq h
    obtain ⟨text, htext⟩ := exists_render_eq_ok_iff.mpr hempty
    exact ⟨text, fun captures =>
      render_congr htext fun index hindex => absurd hindex (hnone index)⟩
  -- Without any captures, no reference is in range.
  · rintro ⟨text, htext⟩
    exact Nat.le_zero.mp (exists_render_eq_ok_iff.mp ⟨text, htext []⟩)

/-- **The greatest reference is what rendering requires.** Rendering succeeds exactly if there are
as many captures as the greatest reference says. Then it writes the captures at the indices that are
referred to as they are, so it gives the same text on all others that have the same captures there,
and on more captures. It fails with the first reference that has no capture, behind references that
have theirs. The template is literal exactly if the greatest reference is zero, and exactly if it
gives one text for all captures. -/
theorem render_requirement (t : Template) (captures : List Text) :
    ((∃ text, t.render captures = .ok text) ↔ t.maxReference ≤ captures.length) ∧
    (∀ text, t.render captures = .ok text →
      text = t.segments.flatMap (Segment.filled fun index => captures.getD index []) ∧
      (∀ more, t.render (captures ++ more) = .ok text) ∧
      ∀ others, (∀ index, Segment.reference index ∈ t.segments →
        others[index]? = captures[index]?) → t.render others = .ok text) ∧
    (∀ e, t.render captures = .error e ↔
      ∃ before index after, t.segments = before ++ .reference index :: after ∧
        captures.length ≤ index ∧ (∀ i, Segment.reference i ∈ before → i < captures.length) ∧
        e = ⟨index + 1, captures.length⟩) ∧
    (t.isLiteral = true ↔ t.maxReference = 0) ∧
    (t.isLiteral = true ↔ ∃ text, ∀ others, t.render others = .ok text) := by
  refine ⟨exists_render_eq_ok_iff, fun text htext => ⟨?_, fun more => ?_, fun others hothers =>
    render_congr htext hothers⟩, fun e => ?_, isLiteral_iff, isLiteral_iff_render_eq⟩
  · have hle := exists_render_eq_ok_iff.mp ⟨text, htext⟩
    rw [render_eq_ok_of_le hle] at htext
    exact (Except.ok.inj htext).symm
  · have hle := exists_render_eq_ok_iff.mp ⟨text, htext⟩
    refine render_congr htext fun index hindex => ?_
    exact List.getElem?_append_left (lt_length_of_le hle hindex)
  · rw [render_eq_error_iff]
    simp only [firstBeyond?_eq_some_iff]
    constructor
    · rintro ⟨_, ⟨before, index, after, hsegments, hle, hbefore, rfl⟩, rfl⟩
      exact ⟨before, index, after, hsegments, hle, fun i hi => hbefore _ hi, rfl⟩
    · rintro ⟨before, index, after, hsegments, hle, hbefore, rfl⟩
      refine ⟨_, ⟨before, index, after, hsegments, hle, fun segment hsegment => ?_, rfl⟩, rfl⟩
      cases segment with
      | literal text => exact Nat.zero_le _
      | reference i => exact hbefore i hsegment

/-- Two captures are just enough for the second group, whatever the first one is, and a dollar sign
in a capture is text; with one capture it is the first of the two references that fails. -/
theorem render_requirement_boundary :
    render ⟨[.reference 1, .literal ['-'], .reference 1]⟩ ["a".toList, "$1\\".toList] =
        .ok "$1\\-$1\\".toList ∧
      render ⟨[.reference 1, .literal ['-'], .reference 1]⟩ [[], "$1\\".toList, "c".toList] =
        .ok "$1\\-$1\\".toList ∧
      render ⟨[.reference 1, .literal ['-'], .reference 1]⟩ ["a".toList] = .error ⟨2, 1⟩ := by
  obtain ⟨hok, hsame, -⟩ := render_requirement ⟨[.reference 1, .literal ['-'], .reference 1]⟩
    ["a".toList, "$1\\".toList]
  obtain ⟨text, htext⟩ := hok.mpr (by decide)
  obtain ⟨rfl, -, hothers⟩ := hsame text htext
  obtain ⟨-, -, herror, -⟩ :=
    render_requirement ⟨[.reference 1, .literal ['-'], .reference 1]⟩ ["a".toList]
  refine ⟨htext, hothers _ fun index hindex => ?_, (herror _).mpr ?_⟩
  · obtain rfl : index = 1 := by simpa using hindex
    rfl
  · exact ⟨[], 1, _, rfl, by decide, nofun, rfl⟩

end Template

end Substitution
