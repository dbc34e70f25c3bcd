import Substitution.Proofs.Template.Grammar

/-!
# Templates that are written and read back

A template is written (`Substitution.Template.print`) with two things in mind: literal text must not
be mistaken for anything else, and a reference must not swallow what follows it. So dollar signs and
backslashes stand behind a backslash, and references are in braces. Nothing else is arranged. Two
literal segments that are neighbours are written as one, and an empty one is not written at all;
what is read back is therefore the normal form of the template, and the template itself only if it
was in normal form (`Substitution.Template.compile_print_normal`).

Not every template can be read back: the numeral of a reference may have too many digits
(`Substitution.Template.Writable`). No template that was compiled has such a reference, since it was
read from a numeral in the first place.
-/

namespace Substitution

/-- A segment that can be read back: the number of a reference is not too long. -/
def Segment.Writable : Segment → Prop
  | literal _ => True
  | reference index => (Text.decimal (index + 1)).length ≤ Text.maxDigits

instance (segment : Segment) : Decidable segment.Writable :=
  match segment with
  | .literal _ => inferInstanceAs (Decidable True)
  | .reference index =>
    inferInstanceAs (Decidable ((Text.decimal (index + 1)).length ≤ Text.maxDigits))

namespace Template

/-- A template that can be read back. -/
def Writable (t : Template) : Prop :=
  ∀ segment ∈ t.segments, segment.Writable

instance (t : Template) : Decidable t.Writable :=
  t.segments.decidableBAll Segment.Writable

/-! ### What is written is read -/

/-- Where no reference is bare, tokens can be read if each of them can be. -/
theorem readable_of_forall {tokens : List Token}
    (h : ∀ token ∈ tokens, token.WellFormed ∧ ¬token.IsBare) : Readable tokens := by
  induction tokens with
  | nil => trivial
  | cons token rest ih =>
    obtain ⟨hwf, hbare⟩ := h token List.mem_cons_self
    exact ⟨hwf, fun hisBare => absurd hisBare hbare,
      ih fun next hnext => h next (List.mem_cons_of_mem token hnext)⟩

/-- **A segment is written with tokens that can be read**, whatever is written behind it. -/
theorem wellFormed_of_mem_tokens {segment : Segment} (h : segment.Writable) {token : Token}
    (htoken : token ∈ segment.tokens) : token.WellFormed ∧ ¬token.IsBare := by
  cases segment with
  | literal text =>
    obtain ⟨c, -, rfl⟩ := List.mem_map.mp htoken
    split
    · next hc => exact ⟨hc.symm, id⟩
    · next hc => exact ⟨not_or.mp hc, id⟩
  | reference index =>
    obtain rfl := List.mem_singleton.mp htoken
    exact ⟨⟨Nat.succ_pos index, h⟩, id⟩

theorem readable_tokens {t : Template} (h : t.Writable) :
    Readable (t.segments.flatMap Segment.tokens) := by
  refine readable_of_forall fun token htoken => ?_
  obtain ⟨segment, hsegment, htoken⟩ := List.mem_flatMap.mp htoken
  exact wellFormed_of_mem_tokens (h segment hsegment) htoken

/-- **The tokens that write a template stand for its normal form.** -/
theorem ofTokens_tokens (t : Template) :
    ofTokens (t.segments.flatMap Segment.tokens) = normal t := by
  obtain ⟨segments⟩ := t
  induction segments with
  | nil => rfl
  | cons segment rest ih =>
    have hrest : segmentsOf (rest.flatMap Segment.tokens) = (normal ⟨rest⟩).segments :=
      congrArg Template.segments ih
    rw [normal_cons, ← hrest, List.flatMap_cons]
    refine congrArg Template.mk ?_
    -- Which characters of a literal segment are escaped makes no difference to what they stand for.
    cases segment with
    | literal text =>
      refine segmentsOf_map_append (fun c => ?_) text _
      split
      · exact Or.inr rfl
      · exact Or.inl rfl
    | reference index => rw [pushSegment_reference]; rfl

theorem compile_print {t : Template} (h : t.Writable) : compile (print t) = .ok (normal t) := by
  have hread : tokens (print t) = .ok (t.segments.flatMap Segment.tokens) :=
    tokens_eq_ok_iff.mpr ⟨readable_tokens h, rfl⟩
  rw [compile, hread]
  exact congrArg Except.ok (ofTokens_tokens t)

/-! ### What was read can be written -/

/-- A character that is put in front makes no reference. -/
theorem reference_mem_of_mem_pushChar {index : Nat} {c : Char} {segments : List Segment}
    (h : Segment.reference index ∈ pushChar c segments) : Segment.reference index ∈ segments := by
  cases segments with
  | nil => cases List.mem_singleton.mp h
  | cons next rest =>
    cases next with
    | literal text =>
      rcases List.mem_cons.mp h with h | h
      · cases h
      · exact List.mem_cons_of_mem _ h
    | reference next =>
      rcases List.mem_cons.mp h with h | h
      · cases h
      · exact h

/-- The references of tokens that can be read have numerals that are not too long. -/
theorem writable_ofTokens {tokens : List Token} (h : Readable tokens) :
    (ofTokens tokens).Writable := by
  intro segment hsegment
  cases segment with
  | literal text => trivial
  | reference index =>
    induction tokens with
    | nil => cases hsegment
    | cons token rest ih =>
      obtain ⟨hwf, -, hrest⟩ := h
      cases token with
      | plain c => exact ih hrest (reference_mem_of_mem_pushChar hsegment)
      | escaped c => exact ih hrest (reference_mem_of_mem_pushChar hsegment)
      | reference number braced =>
        rcases List.mem_cons.mp hsegment with heq | hmem
        · obtain rfl : index = number - 1 := Segment.reference.inj heq
          have hnumber : number - 1 + 1 = number := Nat.sub_add_cancel hwf.1
          rw [Segment.Writable, hnumber]
          exact hwf.2
        · exact ih hrest hmem

/-- **What compiles can be written.** -/
theorem writable_of_compile {text : Text} {t : Template} (h : compile text = .ok t) :
    t.Writable := by
  obtain ⟨read, hread, rfl⟩ := Except.map_eq_ok_iff.mp h
  exact writable_ofTokens (tokens_eq_ok_iff.mp hread).1

/-- **Writing a template and reading it back is normalisation.** Every template whose numbers are
not too long is read back as its normal form, which renders on all captures, refers to groups and is
literal as the template does; and a template that a text compiles to is read back as it is. -/
theorem compile_print_normal :
    (∀ t : Template, t.Writable →
      compile (print t) = .ok (normal t) ∧ (normal t).IsNormal ∧
      (∀ captures, (normal t).render captures = t.render captures) ∧
      (normal t).maxReference = t.maxReference ∧ (normal t).isLiteral = t.isLiteral) ∧
    ∀ text t, compile text = .ok t → compile (print t) = .ok t := by
  constructor
  · intro t h
    exact ⟨compile_print h, isNormal_normal t, render_normal t, maxReference_normal t,
      isLiteral_normal t⟩
  · intro text t h
    rw [compile_print (writable_of_compile h), (isNormal_of_compile h).normal_eq]

/-- Neighbours that only together look like a reference are still literal text when they are read
back, and braces keep a digit from the reference in front of it. -/
theorem compile_print_normal_neighbours :
    compile (print ⟨[.literal ['$'], .literal [], .literal ['1'], .reference 1, .literal ['3']]⟩) =
        .ok ⟨[.literal ['$', '1'], .reference 1, .literal ['3']]⟩ ∧
      compile (print ⟨[.literal ['$', '1'], .reference 1, .literal ['3']]⟩) =
        .ok ⟨[.literal ['$', '1'], .reference 1, .literal ['3']]⟩ := by
  have h := (compile_print_normal.1
    ⟨[.literal ['$'], .literal [], .literal ['1'], .reference 1, .literal ['3']]⟩ (by decide)).1
  exact ⟨h, compile_print_normal.2 _ _ h⟩

end Template

end Substitution
