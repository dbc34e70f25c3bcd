import Substitution.Proofs.Rule.Loaded

/-!
# Rules as a pipeline

Rules that are applied in a row are a pipeline of substitutions. Each rule stands for one
(`Substitution.Rule.pass`), from its pattern, the text of its replacement and its options, and each
of these substitutions works on the text that the one before it has left. That a rule carries its
template is a matter of speed and nothing else: the template is the one that its replacement writes,
so it makes no difference that the replacement is not read again
(`Substitution.Rule.apply_eq_pass`).

A pipeline can be cut anywhere. The rules behind the cut begin with the text that those in front of
it have left and with a count of nothing, and what the two parts have counted is added up
(`Substitution.Rule.applyAll_append`). Everything is put together in
`Substitution.Rule.applyAll_pipeline`.
-/

namespace Substitution

namespace Rule

/-- The substitution that a rule stands for, its replacement given as a text. -/
def pass (r : Rule) (text : Text) : Except SubstituteError Replaced :=
  substituteText r.options.all r.options.flags text r.pattern (.inl r.replacement)

/-- **The passes of a pipeline**: each rule is applied to the text that the one before it has left,
and gives the result that stands at its place. -/
inductive Passes : Text → List Rule → List Replaced → Prop where
  | nil (text : Text) : Passes text [] []
  | cons {text : Text} {r : Rule} {rest : List Rule} {first : Replaced} {others : List Replaced}
      (hfirst : r.pass text = .ok first) (hothers : Passes first.text rest others) :
      Passes text (r :: rest) (first :: others)

/-- The text that is left behind the passes: that of the last one. -/
def textAfter (text : Text) : List Replaced → Text
  | [] => text
  | first :: others => textAfter first.text others

/-- What the passes have counted together. -/
def totalCount : List Replaced → Nat
  | [] => 0
  | first :: others => first.count + totalCount others

/-! ### One rule -/

/-- **A rule that carries the template of its replacement** is applied as if the replacement were
read. -/
theorem apply_eq_pass {r : Rule} (h : make r.pattern r.replacement r.options = .ok r)
    (text : Text) : r.apply text = r.pass text := by
  obtain ⟨-, -, -, htemplate⟩ := make_eq_ok_iff.mp h
  have hgiven : Template.given (.inl r.replacement) = Template.given (.inr r.template) := htemplate
  rw [apply, pass, substituteText, substituteText, substituteGiven_eq, substituteGiven_eq, hgiven]

/-! ### Rules in a row -/

theorem applyAll_cons (text : Text) (r : Rule) (rest : List Rule) :
    applyAll text (r :: rest) = r.apply text >>= fun first =>
      (applyAll first.text rest).map fun others => ⟨others.text, first.count + others.count⟩ := by
  rw [applyAll]
  cases r.apply text with
  | error e => rfl
  | ok first =>
    dsimp only [bind, Except.bind]
    cases applyAll first.text rest <;> rfl

/-- **A pipeline can be cut anywhere.** -/
theorem applyAll_append (text : Text) (first second : List Rule) :
    applyAll text (first ++ second) = applyAll text first >>= fun one =>
      (applyAll one.text second).map fun two => ⟨two.text, one.count + two.count⟩ := by
  induction first generalizing text with
  | nil =>
    change applyAll text second = (applyAll text second).map fun two => ⟨two.text, 0 + two.count⟩
    cases applyAll text second with
    | error e => rfl
    | ok two => rw [Except.map, Nat.zero_add]
  | cons r rest ih =>
    rw [List.cons_append, applyAll_cons, applyAll_cons]
    cases r.apply text with
    | error e => rfl
    | ok one =>
      change (applyAll one.text (rest ++ second)).map _ = (applyAll one.text rest).map _ >>= _
      rw [ih]
      cases applyAll one.text rest with
      | error e => rfl
      | ok others =>
        change ((applyAll others.text second).map _).map _ = (applyAll others.text second).map _
        cases applyAll others.text second with
        | error e => rfl
        | ok two => simp only [Except.map, Nat.add_assoc]

/-- **Rules in a row succeed exactly as the passes of the pipeline do.** -/
theorem applyAll_eq_ok_iff {rules : List Rule}
    (h : ∀ r ∈ rules, make r.pattern r.replacement r.options = .ok r) {text : Text}
    {done : Replaced} :
    applyAll text rules = .ok done ↔
      ∃ results, Passes text rules results ∧
        done = ⟨textAfter text results, totalCount results⟩ := by
  induction rules generalizing text done with
  | nil =>
    constructor
    · intro hdone
      exact ⟨[], .nil text, (Except.ok.inj hdone).symm⟩
    · rintro ⟨_, ⟨⟩, rfl⟩
      rfl
  | cons r rest ih =>
    obtain ⟨hr, hrest⟩ := List.forall_mem_cons.mp h
    rw [applyAll_cons, Except.bind_eq_ok_iff, apply_eq_pass hr]
    constructor
    · rintro ⟨first, hfirst, hdone⟩
      obtain ⟨others, hothers, rfl⟩ := Except.map_eq_ok_iff.mp hdone
      obtain ⟨results, hpasses, rfl⟩ := (ih hrest).mp hothers
      exact ⟨first :: results, .cons hfirst hpasses, rfl⟩
    · rintro ⟨_, ⟨⟩ | ⟨hfirst, hpasses⟩, rfl⟩
      exact ⟨_, hfirst, Except.map_eq_ok_iff.mpr ⟨_, (ih hrest).mpr ⟨_, hpasses, rfl⟩, rfl⟩⟩

/-- **Rules as a pipeline.** Rules that are made of a pattern, a replacement and options are applied
in a row as their substitutions are, each from the text of its replacement and on the text that the
one before it has left: the text is the one that the last of them leaves, and the counts are added
up. Together they fail exactly if one of these substitutions does, with the error of the first that
does. Wherever the rules are cut in two, the second part goes on with the text of the first one, and
the counts are added; if the first part fails, this is the failure. -/
theorem applyAll_pipeline {rules : List Rule}
    (h : ∀ r ∈ rules, make r.pattern r.replacement r.options = .ok r) (text : Text) :
    (∀ done, applyAll text rules = .ok done ↔
      ∃ results, Passes text rules results ∧
        done = ⟨textAfter text results, totalCount results⟩) ∧
    (∀ e, applyAll text rules = .error e ↔
      ∃ before r after results, rules = before ++ r :: after ∧ Passes text before results ∧
        r.pass (textAfter text results) = .error e) ∧
    ∀ first second, rules = first ++ second →
      (∀ e, applyAll text first = .error e → applyAll text rules = .error e) ∧
      ∀ one, applyAll text first = .ok one →
        (∀ two, applyAll one.text second = .ok two →
          applyAll text rules = .ok ⟨two.text, one.count + two.count⟩) ∧
        ∀ e, applyAll one.text second = .error e → applyAll text rules = .error e := by
  refine ⟨fun done => applyAll_eq_ok_iff h, fun e => ?_, ?_⟩
  · rw [applyAll_eq_error_iff]
    constructor
    · rintro ⟨before, r, after, done, rfl, hbefore, hr⟩
      have hmade := fun s hs => h s (List.mem_append_left (r :: after) hs)
      obtain ⟨results, hpasses, rfl⟩ := (applyAll_eq_ok_iff hmade).mp hbefore
      rw [apply_eq_pass (h r (List.mem_append_right _ List.mem_cons_self))] at hr
      exact ⟨before, r, after, results, rfl, hpasses, hr⟩
    · rintro ⟨before, r, after, results, rfl, hpasses, hr⟩
      have hmade := fun s hs => h s (List.mem_append_left (r :: after) hs)
      rw [← apply_eq_pass (h r (List.mem_append_right _ List.mem_cons_self))] at hr
      exact ⟨before, r, after, _, rfl, (applyAll_eq_ok_iff hmade).mpr ⟨results, hpasses, rfl⟩, hr⟩
  · rintro first second rfl
    rw [applyAll_append]
    refine ⟨fun e he => ?_, fun one hone => ⟨fun two htwo => ?_, fun e he => ?_⟩⟩
    · rw [he]
      rfl
    · rw [hone]
      exact Except.map_eq_ok_iff.mpr ⟨two, htwo, rfl⟩
    · rw [hone]
      exact Except.map_eq_error_iff.mpr he

/-- The second of two rules replaces what the first one has written, too; a third one that refers to
a group fails behind both of them. -/
theorem applyAll_pipeline_third :
    applyAll "ab".toList [⟨['a'], ['b'], {}, ⟨[.literal ['b']]⟩⟩,
        ⟨['b'], ['c'], {}, ⟨[.literal ['c']]⟩⟩] = .ok ⟨"cc".toList, 3⟩ ∧
      applyAll "ab".toList [⟨['a'], ['b'], {}, ⟨[.literal ['b']]⟩⟩,
        ⟨['b'], ['c'], {}, ⟨[.literal ['c']]⟩⟩, ⟨['c'], "$1".toList, {}, ⟨[.reference 0]⟩⟩] =
          .error (.reference ⟨1, 0⟩) := by
  have hfirst : pass ⟨['a'], ['b'], {}, ⟨[.literal ['b']]⟩⟩ "ab".toList =
      .ok ⟨"bb".toList, 1⟩ := rfl
  have hsecond : pass ⟨['b'], ['c'], {}, ⟨[.literal ['c']]⟩⟩ "bb".toList =
      .ok ⟨"cc".toList, 2⟩ := rfl
  have hthird : pass ⟨['c'], "$1".toList, {}, ⟨[.reference 0]⟩⟩ "cc".toList =
      .error (.reference ⟨1, 0⟩) := rfl
  have hpasses := Passes.cons hfirst (.cons hsecond (.nil _))
  have htwo : ∀ r ∈ [(⟨['a'], ['b'], {}, ⟨[.literal ['b']]⟩⟩ : Rule),
      ⟨['b'], ['c'], {}, ⟨[.literal ['c']]⟩⟩],
      make r.pattern r.replacement r.options = .ok r := by
    simp only [List.forall_mem_cons]
    exact ⟨rfl, rfl, nofun⟩
  have hthree : ∀ r ∈ [(⟨['a'], ['b'], {}, ⟨[.literal ['b']]⟩⟩ : Rule),
      ⟨['b'], ['c'], {}, ⟨[.literal ['c']]⟩⟩, ⟨['c'], "$1".toList, {}, ⟨[.reference 0]⟩⟩],
      make r.pattern r.replacement r.options = .ok r := by
    simp only [List.forall_mem_cons]
    exact ⟨rfl, rfl, rfl, nofun⟩
  obtain ⟨hok, -⟩ := applyAll_pipeline htwo "ab".toList
  obtain ⟨-, herror, -⟩ := applyAll_pipeline hthree "ab".toList
  exact ⟨(hok _).mpr ⟨_, hpasses, rfl⟩, (herror _).mpr ⟨[_, _], _, [], _, rfl, hpasses, hthird⟩⟩

end Rule

end Substitution
