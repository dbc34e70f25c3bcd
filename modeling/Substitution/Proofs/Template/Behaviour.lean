import Substitution.Proofs.Template.Grammar

/-!
# Templates that behave alike

A template does one thing: it is rendered on the captures of a match. Two templates that compile are
equal exactly when no captures tell them apart, `Substitution.Template.eq_iff_render_eq`, whether by
the text or by the reference that is missing.

Only one direction has anything in it, and only the renderings that succeed are needed for it. With
enough captures every reference is filled, and a template is filled segment by segment
(`Substitution.Segment.filled`), without a failure to think of. So let two rows of segments be
filled alike by all groups, and compare them from the front.

* Two references must be the same one, as there are groups that differ in their first character.
* A literal segment is never where the other row has a reference or has ended: fill all groups with
  a character other than the first one of the literal text.
* Two literal segments are equally long, for otherwise the longer one goes on where the other row
  has a reference or has ended. **This is where the normal form comes in**: what follows a literal
  segment is not literal.
-/

namespace Substitution

/-- What a segment contributes when every group has a text. -/
def Segment.filled (groups : Nat → Text) : Segment → Text
  | literal text => text
  | reference index => groups index

namespace Template

/-! ### Rendering with enough captures -/

/-- **Where every reference has its capture, rendering fills the segments.** -/
theorem render_eq_ok_of_getElem? {t : Template} {captures : List Text} {groups : Nat → Text}
    (h : ∀ index, Segment.reference index ∈ t.segments → captures[index]? = some (groups index)) :
    t.render captures = .ok (t.segments.flatMap (Segment.filled groups)) := by
  have hsegments : t.segments.mapM (Segment.render captures) =
      .ok (t.segments.map (Segment.filled groups)) := by
    rw [Except.mapM_eq_ok_iff, List.map_map]
    refine List.map_congr_left fun segment hsegment => ?_
    cases segment with
    | literal text => rfl
    | reference index => rw [Segment.render, h index hsegment]; rfl
  rw [render, hsegments, List.flatMap_def]
  rfl

theorem lt_maxReference {t : Template} {index : Nat} (h : Segment.reference index ∈ t.segments) :
    index < t.maxReference := by
  obtain ⟨segments⟩ := t
  induction segments with
  | nil => cases h
  | cons segment rest ih =>
    rw [maxReference_cons]
    rcases List.mem_cons.mp h with rfl | h
    · exact Nat.lt_of_lt_of_le (Nat.lt_succ_self index) (Nat.le_max_left _ _)
    · exact Nat.lt_of_lt_of_le (ih h) (Nat.le_max_right _ _)

/-- The first `n` groups are captures enough for a template that refers to no other one. -/
theorem render_map_range {t : Template} {n : Nat} (h : t.maxReference ≤ n) (groups : Nat → Text) :
    t.render ((List.range n).map groups) = .ok (t.segments.flatMap (Segment.filled groups)) := by
  refine render_eq_ok_of_getElem? fun index hindex => ?_
  have hlt : index < n := Nat.lt_of_lt_of_le (lt_maxReference hindex) h
  rw [List.getElem?_map, List.getElem?_range hlt]
  rfl

/-! ### Groups that tell segments apart -/

/-- There is always another character. -/
theorem exists_ne_char (c : Char) : ∃ d : Char, d ≠ c := by
  by_cases hc : c = 'a'
  · exact ⟨'b', by rw [hc]; decide⟩
  · exact ⟨'a', fun h => hc h.symm⟩

/-- **Segments with no literal one in front are not filled as literal text is**: the groups need
only begin with another character. -/
theorem exists_filled_ne {segments : List Segment}
    (hhead : ∀ next ∈ segments.head?, next.isLiteral = false) {text : Text} (htext : text ≠ [])
    (after : (Nat → Text) → Text) :
    ∃ groups, segments.flatMap (Segment.filled groups) ≠ text ++ after groups := by
  cases text with
  | nil => exact absurd rfl htext
  | cons c text =>
    obtain ⟨d, hd⟩ := exists_ne_char c
    refine ⟨fun _ => [d], fun h => ?_⟩
    cases segments with
    | nil => cases h
    | cons next rest =>
      cases next with
      | literal next => cases hhead _ rfl
      | reference index => exact hd (List.cons.inj h).1

/-- Two references that are always filled alike at the front of two rows are the same. -/
theorem reference_eq_of_filled {i j : Nat} {a b : List Segment}
    (h : ∀ groups, (Segment.reference i :: a).flatMap (Segment.filled groups) =
      (Segment.reference j :: b).flatMap (Segment.filled groups)) : i = j := by
  by_cases hij : i = j
  · exact hij
  · have hgroups := h fun k => if k = i then ['a'] else ['b']
    simp only [List.flatMap_cons, Segment.filled, if_pos, if_neg (Ne.symm hij)] at hgroups
    exact absurd (List.cons.inj hgroups).1 (by decide)

/-- Of two literal segments, one in front of what is not literal is not the shorter one. -/
theorem literal_eq_of_shorter {a : List Segment} {text longer : Text}
    (hhead : ∀ next ∈ a.head?, next.isLiteral = false) {b : (Nat → Text) → Text}
    (h : ∀ groups, text ++ a.flatMap (Segment.filled groups) = longer ++ b groups)
    (hshort : text <+: longer) : text = longer := by
  obtain ⟨more, rfl⟩ := hshort
  by_cases hmore : more = []
  · rw [hmore, List.append_nil]
  · obtain ⟨groups, hgroups⟩ := exists_filled_ne hhead hmore b
    have h := h groups
    rw [List.append_assoc] at h
    exact absurd (List.append_cancel_left h) hgroups

/-- Two literal segments in front of what is not literal are the same if they are filled alike. -/
theorem literal_eq_of_filled {text text' : Text} {a b : List Segment}
    (ha : ∀ next ∈ a.head?, next.isLiteral = false)
    (hb : ∀ next ∈ b.head?, next.isLiteral = false)
    (h : ∀ groups, (Segment.literal text :: a).flatMap (Segment.filled groups) =
      (Segment.literal text' :: b).flatMap (Segment.filled groups)) : text = text' := by
  have hfilled : ∀ groups, text ++ a.flatMap (Segment.filled groups) =
      text' ++ b.flatMap (Segment.filled groups) := h
  -- Any groups show that one of the two texts begins with the other.
  have hnone := hfilled fun _ => []
  rcases List.prefix_or_prefix_of_prefix (List.prefix_append text _)
    (hnone ▸ List.prefix_append text' _) with hshort | hshort
  · exact literal_eq_of_shorter ha hfilled hshort
  · exact (literal_eq_of_shorter hb (fun groups => (hfilled groups).symm) hshort).symm

/-! ### Filled alike, equal -/

theorem head_not_literal {text : Text} {rest : List Segment}
    (h : ∀ next ∈ rest.head?, ¬((Segment.literal text).isLiteral = true ∧ next.isLiteral = true)) :
    ∀ next ∈ rest.head?, next.isLiteral = false := by
  intro next hnext
  cases hliteral : next.isLiteral with
  | false => rfl
  | true => exact absurd ⟨rfl, hliteral⟩ (h next hnext)

/-- **Where one row in normal form has a literal segment, so has the other**, and it is the same. -/
theorem IsNormal.exists_eq_literal_cons {text : Text} {a b : List Segment}
    (ha : IsNormal ⟨.literal text :: a⟩) (hb : IsNormal ⟨b⟩)
    (h : ∀ groups, (Segment.literal text :: a).flatMap (Segment.filled groups) =
      b.flatMap (Segment.filled groups)) :
    ∃ rest, b = .literal text :: rest := by
  obtain ⟨hsegment, haHead, -⟩ := isNormal_cons_iff.mp ha
  have htext : text ≠ [] := fun hnil => hsegment (congrArg Segment.literal hnil)
  -- If `b` does not begin with a literal segment, some groups tell it from `text`.
  by_cases hhead : ∀ next ∈ b.head?, next.isLiteral = false
  · obtain ⟨groups, hgroups⟩ := exists_filled_ne hhead htext
      fun groups => a.flatMap (Segment.filled groups)
    exact absurd (h groups).symm hgroups
  cases b with
  | nil => exact absurd (fun next hnext => nomatch hnext) hhead
  | cons next rest =>
    cases next with
    | reference index => exact absurd (fun next hnext => Option.some.inj hnext ▸ rfl) hhead
    | literal text' =>
      obtain ⟨-, hbHead, -⟩ := isNormal_cons_iff.mp hb
      obtain rfl := literal_eq_of_filled (head_not_literal haHead) (head_not_literal hbHead) h
      exact ⟨rest, rfl⟩

/-- **Two rows in normal form that all groups fill alike are the same.** -/
theorem IsNormal.eq_of_filled_eq {a b : List Segment} (ha : IsNormal ⟨a⟩) (hb : IsNormal ⟨b⟩)
    (h : ∀ groups, a.flatMap (Segment.filled groups) = b.flatMap (Segment.filled groups)) :
    a = b := by
  induction a generalizing b with
  | nil =>
    cases b with
    | nil => rfl
    | cons next rest =>
      cases next with
      | literal text =>
        obtain ⟨_, hnil⟩ := hb.exists_eq_literal_cons ha fun groups => (h groups).symm
        cases hnil
      | reference index => cases h fun _ => ['a']
  | cons segment a ih =>
    cases segment with
    | literal text =>
      obtain ⟨b, rfl⟩ := ha.exists_eq_literal_cons hb h
      have hrest := ih (isNormal_cons_iff.mp ha).2.2 (isNormal_cons_iff.mp hb).2.2
        fun groups => List.append_cancel_left (h groups)
      rw [hrest]
    | reference index =>
      cases b with
      | nil => cases h fun _ => ['a']
      | cons next b =>
        cases next with
        | literal text =>
          obtain ⟨_, hcons⟩ := hb.exists_eq_literal_cons ha fun groups => (h groups).symm
          cases hcons
        | reference index' =>
          obtain rfl := reference_eq_of_filled h
          have hrest := ih (isNormal_cons_iff.mp ha).2.2 (isNormal_cons_iff.mp hb).2.2
            fun groups => List.append_cancel_left (h groups)
          rw [hrest]

/-- **Two templates in normal form that no captures tell apart are equal.** -/
theorem IsNormal.eq_of_render_eq {s t : Template} (hs : s.IsNormal) (ht : t.IsNormal)
    (h : ∀ captures, s.render captures = t.render captures) : s = t := by
  have hfilled : ∀ groups, s.segments.flatMap (Segment.filled groups) =
      t.segments.flatMap (Segment.filled groups) := by
    intro groups
    -- Both templates find all their references among so many groups.
    have hrender := h ((List.range (max s.maxReference t.maxReference)).map groups)
    rw [render_map_range (Nat.le_max_left _ _), render_map_range (Nat.le_max_right _ _)] at hrender
    exact Except.ok.inj hrender
  exact congrArg Template.mk (hs.eq_of_filled_eq ht hfilled)

/-- **Equality of compiled templates is equality of behaviour**: two templates that compile are
equal exactly when, on captures of any number and contents, they give the same text or miss the same
reference. -/
theorem eq_iff_render_eq {a b : Text} {s t : Template} (hs : compile a = .ok s)
    (ht : compile b = .ok t) : s = t ↔ ∀ captures, s.render captures = t.render captures := by
  constructor
  · rintro rfl captures
    rfl
  · intro h
    exact (isNormal_of_compile hs).eq_of_render_eq (isNormal_of_compile ht) h

/-- A reference before a letter and behind it: equal on the capture `a`, but not on all captures. -/
theorem eq_iff_render_eq_swapped :
    compile "$1a".toList = .ok ⟨[.reference 0, .literal ['a']]⟩ ∧
      compile "a$1".toList = .ok ⟨[.literal ['a'], .reference 0]⟩ ∧
      ¬∀ captures, render ⟨[.reference 0, .literal ['a']]⟩ captures =
        render ⟨[.literal ['a'], .reference 0]⟩ captures :=
  ⟨rfl, rfl, fun h => absurd
    ((eq_iff_render_eq (a := "$1a".toList) (b := "a$1".toList) rfl rfl).mpr h) (by decide)⟩

end Template

end Substitution
