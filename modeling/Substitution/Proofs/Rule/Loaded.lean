import Substitution.Proofs.Outcome
import Substitution.Settings

/-!
# Rules that have been loaded

A rules file is checked when it is loaded: the pattern of each entry is read under the flags of that
entry, and its replacement is compiled. The pattern is read again whenever the rule is applied,
under the flags that the rule carries, so the check is worth something only if these are the same
flags. They are: a rule that has been loaded is **sound** (`Substitution.Rule.Sound`,
`Substitution.Rule.sound_of_load`).

Only the last of the three stages of a substitution is then left to fail. Rules are applied in a row
until one fails (`Substitution.Rule.applyAll_eq_error_iff`), so a row of sound rules fails at the
first of them that has a match in the text that the ones before it have produced and refers to a
group that its pattern does not have, or whose search breaks off in that text:
`Substitution.Rule.load_outcome`. The latter does not happen to a rule with a steady pattern.
-/

namespace Substitution

namespace Rule

/-- **A rule that can be applied**: its pattern is one under its own flags, and its template is what
its replacement writes. -/
structure Sound (r : Rule) : Prop where
  exists_pattern : ∃ p, Pattern.compile r.pattern r.options.flags = .ok p
  compile_replacement : Template.compile r.replacement = .ok r.template

/-- A rule that has been made has what it was made of, with the template of its replacement. -/
theorem make_eq_ok_iff {pattern replacement : Text} {options : Options} {r : Rule} :
    make pattern replacement options = .ok r ↔
      r.pattern = pattern ∧ r.replacement = replacement ∧ r.options = options ∧
        Template.compile replacement = .ok r.template := by
  rw [make, Except.bind_eq_ok_iff]
  constructor
  · rintro ⟨t, ht, h⟩
    obtain rfl := Except.ok.inj h
    exact ⟨rfl, rfl, rfl, ht⟩
  · rintro ⟨rfl, rfl, rfl, ht⟩
    exact ⟨_, ht, rfl⟩

/-! ### What is checked when rules are loaded -/

/-- **A draft gives the rule with what it says**, if that rule can be applied. -/
theorem Draft.finish_eq_ok_iff {d : Draft} {r : Rule} :
    d.finish = .ok r ↔
      r.pattern = d.pattern ∧ r.replacement = d.replacement ∧ r.options = d.options ∧ r.Sound := by
  constructor
  · intro h
    obtain ⟨p, hp, h⟩ := Except.bind_eq_ok_iff.mp h
    obtain ⟨hpattern, hreplacement, hoptions, ht⟩ :=
      make_eq_ok_iff.mp (Except.mapError_eq_ok_iff.mp h)
    have hp := Except.mapError_eq_ok_iff.mp hp
    rw [← hpattern, ← hoptions] at hp
    exact ⟨hpattern, hreplacement, hoptions, ⟨p, hp⟩, hreplacement ▸ ht⟩
  · rintro ⟨hpattern, hreplacement, hoptions, ⟨p, hp⟩, ht⟩
    rw [hpattern, hoptions] at hp
    refine Except.bind_eq_ok_iff.mpr ⟨p, Except.mapError_eq_ok_iff.mpr hp, ?_⟩
    exact Except.mapError_eq_ok_iff.mpr
      (make_eq_ok_iff.mpr ⟨hpattern, hreplacement, hoptions, hreplacement ▸ ht⟩)

theorem sound_of_ofValue {index : Nat} {v : Value} {r : Rule} (h : ofValue index v = .ok r) :
    r.Sound := by
  obtain ⟨d, -, h⟩ := Except.bind_eq_ok_iff.mp (Except.mapError_eq_ok_iff.mp h)
  exact (Draft.finish_eq_ok_iff.mp h).2.2.2

theorem sound_of_ofValues {index : Nat} {values : List Value} {rules : List Rule}
    (h : ofValues index values = .ok rules) : ∀ r ∈ rules, r.Sound := by
  induction values generalizing index rules with
  | nil =>
    cases h
    exact nofun
  | cons v rest ih =>
    obtain ⟨first, hfirst, h⟩ := Except.bind_eq_ok_iff.mp h
    obtain ⟨others, hothers, h⟩ := Except.bind_eq_ok_iff.mp h
    obtain rfl : first :: others = rules := Except.ok.inj h
    exact List.forall_mem_cons.mpr ⟨sound_of_ofValue hfirst, ih hothers⟩

/-- **Rules that have been loaded are sound.** -/
theorem sound_of_load {files : Files} {path : Text} {rules : List Rule}
    (h : load files path = .ok rules) : ∀ r ∈ rules, r.Sound := by
  obtain ⟨entries, -, h⟩ := Except.bind_eq_ok_iff.mp h
  exact sound_of_ofValues (Except.mapError_eq_ok_iff.mp h)

/-! ### Rules in a row -/

/-- **A row of rules fails at the first rule that fails** on what the ones before it have produced.
-/
theorem applyAll_eq_error_iff {rules : List Rule} {text : Text} {e : SubstituteError} :
    applyAll text rules = .error e ↔
      ∃ before r after done, rules = before ++ r :: after ∧
        applyAll text before = .ok done ∧ r.apply done.text = .error e := by
  induction rules generalizing text with
  | nil =>
    constructor
    · nofun
    · rintro ⟨before, r, after, -, h, -⟩
      exact absurd h.symm (List.append_ne_nil_of_right_ne_nil _ (List.cons_ne_nil _ _))
  | cons first rest ih =>
    rw [applyAll, Except.bind_eq_error_iff]
    constructor
    · rintro (h | ⟨one, hone, h⟩)
      · exact ⟨[], first, rest, ⟨text, 0⟩, rfl, rfl, h⟩
      · rcases Except.bind_eq_error_iff.mp h with h | ⟨_, -, h⟩
        · obtain ⟨before, r, after, done, rfl, hbefore, hr⟩ := ih.mp h
          refine ⟨first :: before, r, after, ⟨done.text, one.count + done.count⟩, rfl, ?_, hr⟩
          rw [applyAll, hone]
          exact Except.bind_eq_ok_iff.mpr ⟨one, rfl, Except.bind_eq_ok_iff.mpr ⟨done, hbefore, rfl⟩⟩
        · cases h
    · rintro ⟨before, r, after, done, hrules, hbefore, hr⟩
      cases before with
      | nil =>
        cases hrules
        cases hbefore
        exact .inl hr
      | cons _ before =>
        cases hrules
        obtain ⟨one, hone, h⟩ := Except.bind_eq_ok_iff.mp hbefore
        obtain ⟨done', hdone', h⟩ := Except.bind_eq_ok_iff.mp h
        cases h
        refine .inr ⟨one, hone, Except.bind_eq_error_iff.mpr (.inl ?_)⟩
        exact ih.mpr ⟨before, r, after, done', rfl, hdone', hr⟩

/-- **How a rule fails in a text** whose pattern and template are known to be well-formed: it misses
a group, or its search breaks off. -/
inductive Fails (r : Rule) (text : Text) (p : Pattern) : SubstituteError → Prop where
  | reference {number : Nat} (hmatch : p.matchesIn text ≠ [])
    (hbeyond : p.groups < r.template.maxReference)
    (hnumber : r.template.firstBeyond? p.groups = some number) :
    Fails r text p (.reference ⟨number, p.groups⟩)
  | search {fault : SearchFault}
    (hrendered : p.matchesIn text = [] ∨ r.template.maxReference ≤ p.groups)
    (hfault : (replacedScan r.options.all p text).fault = some fault) :
    Fails r text p (.search fault)

/-- A sound rule fails in the last stage only. -/
theorem Sound.apply_eq_error_iff {r : Rule} (h : r.Sound) {text : Text} {e : SubstituteError} :
    r.apply text = .error e ↔
      ∃ p, Pattern.compile r.pattern r.options.flags = .ok p ∧ r.Fails text p e := by
  obtain ⟨p, hp⟩ := h.exists_pattern
  have hpattern : Pattern.given r.options.flags (.inl r.pattern) = .ok p := hp
  have htemplate : Template.given (.inr r.template) = .ok r.template := rfl
  rw [apply, substituteText, substituteGiven_eq_error_iff hpattern htemplate]
  constructor
  · rintro (⟨hne, hlt, number, hnumber, rfl⟩ | ⟨hrendered, fault, hfault, rfl⟩)
    · exact ⟨p, hp, .reference hne hlt hnumber⟩
    · exact ⟨p, hp, .search hrendered hfault⟩
  · rintro ⟨p', hp', hfails⟩
    obtain rfl : p = p' := Except.ok.inj (hp.symm.trans hp')
    cases hfails with
    | reference hne hlt hnumber => exact .inl ⟨hne, hlt, _, hnumber, rfl⟩
    | search hrendered hfault => exact .inr ⟨hrendered, _, hfault, rfl⟩

theorem applyAll_eq_error_iff_of_sound {rules : List Rule} (h : ∀ r ∈ rules, r.Sound) {text : Text}
    {e : SubstituteError} :
    applyAll text rules = .error e ↔
      ∃ before r after done p,
        rules = before ++ r :: after ∧ applyAll text before = .ok done ∧
        Pattern.compile r.pattern r.options.flags = .ok p ∧ r.Fails done.text p e := by
  rw [applyAll_eq_error_iff]
  constructor
  · rintro ⟨before, r, after, done, rfl, hbefore, hr⟩
    have hsound := h r (List.mem_append_right _ List.mem_cons_self)
    obtain ⟨p, hr⟩ := hsound.apply_eq_error_iff.mp hr
    exact ⟨before, r, after, done, p, rfl, hbefore, hr⟩
  · rintro ⟨before, r, after, done, p, rfl, hbefore, hr⟩
    have hsound := h r (List.mem_append_right _ List.mem_cons_self)
    exact ⟨before, r, after, done, rfl, hbefore, hsound.apply_eq_error_iff.mpr ⟨p, hr⟩⟩

/-- The search of a rule with a steady pattern does not break off. -/
theorem Fails.not_steady {r : Rule} {text : Text} {p : Pattern} {fault : SearchFault}
    (hp : Pattern.compile r.pattern r.options.flags = .ok p) (h : r.Fails text p (.search fault)) :
    ¬p.root.Steady := by
  intro hsteady
  cases h with
  | search _ hfault =>
    rw [fault_replacedScan, Pattern.fault_scan_eq_none hp hsteady, ite_self] at hfault
    cases hfault

/-- **A rules file that loads is never found malformed later.** Rules that have been loaded are
sound, so whatever text they are applied to, they succeed, or miss a capture group, or a search
breaks off. They miss a group exactly if the rules in front of one of them succeed, its pattern has
a match in the text that they produce, and its template refers to a group beyond those of the
pattern; the error names the first such reference. A search breaks off exactly if the rules in front
of one of them succeed, its template has groups enough or nothing to render, and the search for what
it replaces breaks off in the text that they produce; the pattern of such a rule is not steady. -/
theorem load_outcome {files : Files} {path : Text} {rules : List Rule}
    (h : load files path = .ok rules) (text : Text) :
    (∀ r ∈ rules, r.Sound) ∧
    ((∃ done, applyAll text rules = .ok done) ∨
      (∃ missing, applyAll text rules = .error (.reference missing)) ∨
      ∃ fault, applyAll text rules = .error (.search fault)) ∧
    (∀ missing, applyAll text rules = .error (.reference missing) ↔
      ∃ before r after done p number,
        rules = before ++ r :: after ∧ applyAll text before = .ok done ∧
        Pattern.compile r.pattern r.options.flags = .ok p ∧ p.matchesIn done.text ≠ [] ∧
        p.groups < r.template.maxReference ∧
        r.template.firstBeyond? p.groups = some number ∧ missing = ⟨number, p.groups⟩) ∧
    (∀ fault, applyAll text rules = .error (.search fault) ↔
      ∃ before r after done p,
        rules = before ++ r :: after ∧ applyAll text before = .ok done ∧
        Pattern.compile r.pattern r.options.flags = .ok p ∧ ¬p.root.Steady ∧
        (p.matchesIn done.text = [] ∨ r.template.maxReference ≤ p.groups) ∧
        (replacedScan r.options.all p done.text).fault = some fault) := by
  have hsound := sound_of_load h
  refine ⟨hsound, ?_, fun missing => ?_, fun fault => ?_⟩
  · cases hall : applyAll text rules with
    | ok done => exact .inl ⟨done, rfl⟩
    | error e =>
      obtain ⟨_, _, _, _, p, _, _, _, hfails⟩ := (applyAll_eq_error_iff_of_sound hsound).mp hall
      cases hfails with
      | reference => exact .inr (.inl ⟨_, rfl⟩)
      | search => exact .inr (.inr ⟨_, rfl⟩)
  · rw [applyAll_eq_error_iff_of_sound hsound]
    constructor
    · rintro ⟨before, r, after, done, p, hrules, hbefore, hp, hfails⟩
      cases hfails with
      | reference hne hlt hnumber =>
        exact ⟨before, r, after, done, p, _, hrules, hbefore, hp, hne, hlt, hnumber, rfl⟩
    · rintro ⟨before, r, after, done, p, number, hrules, hbefore, hp, hne, hlt, hnumber, rfl⟩
      exact ⟨before, r, after, done, p, hrules, hbefore, hp, .reference hne hlt hnumber⟩
  · rw [applyAll_eq_error_iff_of_sound hsound]
    constructor
    · rintro ⟨before, r, after, done, p, hrules, hbefore, hp, hfails⟩
      have hsteady := hfails.not_steady hp
      cases hfails with
      | search hrendered hfault =>
        exact ⟨before, r, after, done, p, hrules, hbefore, hp, hsteady, hrendered, hfault⟩
    · rintro ⟨before, r, after, done, p, hrules, hbefore, hp, -, hrendered, hfault⟩
      exact ⟨before, r, after, done, p, hrules, hbefore, hp, .search hrendered hfault⟩

/-- Two rules, the second of which has a match only in what the first one writes, and only under its
own flags: it fails behind the first one, and has nothing to do elsewhere. -/
theorem load_outcome_second :
    ∃ files rules, load files "r".toList = .ok rules ∧
      applyAll "a".toList rules = .error (.reference ⟨1, 0⟩) ∧
      ∃ done, applyAll "c".toList rules = .ok done := by
  have hload : (load (.ofEntries [("r".toList, .bytes
      ("- \x7bpattern: a, replacement: \"\\nb\"\x7d\n" ++
        "- \x7bpattern: ^b, replacement: $1, multiline: true\x7d\n").toUTF8.toList)])
      "r".toList).toOption =
      some [⟨"a".toList, "\nb".toList, {}, ⟨[.literal "\nb".toList]⟩⟩,
        ⟨"^b".toList, "$1".toList, ⟨true, 8⟩, ⟨[.reference 0]⟩⟩] := by decide +kernel
  have hload := Except.toOption_eq_some_iff.mp hload
  have hp : Pattern.compile "^b".toList 8 = .ok ⟨"^b".toList, 0,
      .seq (.anchor .lineStart) (.one (.code 98 false) ⟨false, true⟩), true⟩ := rfl
  obtain ⟨-, -, hmissing, -⟩ := load_outcome hload "a".toList
  refine ⟨_, _, hload, (hmissing _).mpr ?_, ⟨"c".toList, 0⟩, rfl⟩
  exact ⟨[_], _, [], ⟨"\nb".toList, 1⟩, _, 1, rfl, rfl, hp, by decide, by decide, rfl, rfl⟩

/-- **A rules file that loads and then breaks off** while a text is rewritten, though its template
has no references. -/
theorem load_entered_in_vain :
    ∃ files rules, load files "r".toList = .ok rules ∧
      applyAll "abb".toList rules = .error (.search .wrongSpan) := by
  have hload : (load (.ofEntries [("r".toList, .bytes
      "- pattern: (?:(a)|b)*+\n  replacement: z\n".toUTF8.toList)]) "r".toList).toOption =
      some [⟨"(?:(a)|b)*+".toList, "z".toList, {}, ⟨[.literal "z".toList]⟩⟩] := by decide +kernel
  exact ⟨_, _, Except.toOption_eq_some_iff.mp hload, rfl⟩

end Rule

end Substitution
