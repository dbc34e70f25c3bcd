import Mathlib.Data.List.Induction
import Mathlib.Data.Nat.Bitwise
import Substitution.Proofs.Rule.Loaded
import Substitution.Proofs.Template.Grammar
import Substitution.Session

/-!
# What holds in every state of a session

A session gathers options and rules in several ways: from a mapping, from a file, by switches, by
appending a rule. Whatever is done in whatever order, the flags that come together are only those
that a switch can turn on (`Substitution.Flags.Switchable`), and the template that a rule carries is
the one that its replacement writes. So a row of rules that is applied never finds a template
malformed.

A pattern is different. The rules of a file are checked when it is loaded, but a rule that is
appended is not, so its pattern may turn out malformed when it is applied. It is then known where
the rule comes from: `Substitution.Session.AppendedSinceLoad` says that some step behind the last
file that was loaded has appended it.

The induction is on the steps taken, the last one split off, and all that it needs to know of a step
is where the options and the rules behind it come from (`Substitution.Session.options_step` and
`Substitution.Session.mem_rules_step`). Everything is put together in
`Substitution.Session.after_invariant`.
-/

namespace Substitution

/-! ### Flags that a switch can turn on -/

/-- **Flags that a switch can turn on**: only the bits of `Flags.ignoreCase`, `Flags.multiline` and
`Flags.dotAll` are set. -/
def Flags.Switchable (f : Flags) : Prop :=
  ∀ bit, f.testBit bit = true → bit = 1 ∨ bit = 3 ∨ bit = 4

theorem Flags.switchable_zero : Switchable 0 := by
  intro bit h
  rw [Nat.zero_testBit] at h
  cases h

theorem Flags.Switchable.or {f g : Flags} (hf : f.Switchable) (hg : g.Switchable) :
    Switchable (f ||| g) := by
  intro bit h
  rw [Nat.testBit_or, Bool.or_eq_true] at h
  exact h.elim (hf bit) (hg bit)

/-- What switches turn on is a set of such flags. -/
theorem Overrides.switchable_flags (switches : Overrides) : switches.flags.Switchable := by
  -- Each of the three flags is the power of two that belongs to its bit.
  have hone (bit : Nat) (h : bit = 1 ∨ bit = 3 ∨ bit = 4) : Flags.Switchable (2 ^ bit) := by
    intro i hi
    rw [Nat.testBit_two_pow, decide_eq_true_eq] at hi
    exact hi ▸ h
  have hgiven (b : Bool) {f : Flags} (hf : f.Switchable) :
      Flags.Switchable (if b then f else 0) := by
    cases b with
    | false => exact Flags.switchable_zero
    | true => exact hf
  exact ((hgiven _ (hone 1 (by decide))).or (hgiven _ (hone 3 (by decide)))).or
    (hgiven _ (hone 4 (by decide)))

namespace Options

theorem switchable_of_ofMapping {place : Text} {entries : List (Value × Value)} {o : Options}
    (h : ofMapping place entries = .ok o) : o.flags.Switchable := by
  rw [ofMapping] at h
  split at h
  · cases h
  split at h
  · cases h
  obtain ⟨all, -, h⟩ := Except.bind_eq_ok_iff.mp h
  obtain ⟨ignoreCase, -, h⟩ := Except.bind_eq_ok_iff.mp h
  obtain ⟨multiline, -, h⟩ := Except.bind_eq_ok_iff.mp h
  obtain ⟨dotAll, -, h⟩ := Except.bind_eq_ok_iff.mp h
  obtain rfl := Except.ok.inj h
  exact Overrides.switchable_flags _

theorem switchable_of_load {files : Files} {path : Text} {o : Options}
    (h : load files path = .ok o) : o.flags.Switchable := by
  obtain ⟨v, -, h⟩ := Except.bind_eq_ok_iff.mp h
  cases v with
  | null =>
    obtain rfl := Except.ok.inj h
    exact Flags.switchable_zero
  | map entries => exact switchable_of_ofMapping (Except.mapError_eq_ok_iff.mp h)
  | _ => cases h

end Options

namespace Rule

theorem switchable_of_ofValue {index : Nat} {v : Value} {r : Rule} (h : ofValue index v = .ok r) :
    r.options.flags.Switchable := by
  obtain ⟨d, hd, h⟩ := Except.bind_eq_ok_iff.mp (Except.mapError_eq_ok_iff.mp h)
  obtain ⟨-, -, hoptions, -⟩ := Draft.finish_eq_ok_iff.mp h
  rw [hoptions]
  cases v with
  | map entries =>
    rw [Draft.ofValue, Draft.ofEntries] at hd
    split at hd
    · obtain ⟨pattern, -, hd⟩ := Except.bind_eq_ok_iff.mp hd
      obtain ⟨replacement, -, hd⟩ := Except.bind_eq_ok_iff.mp hd
      obtain ⟨options, hmapping, hd⟩ := Except.bind_eq_ok_iff.mp hd
      obtain rfl := Except.ok.inj hd
      exact Options.switchable_of_ofMapping (Except.mapError_eq_ok_iff.mp hmapping)
    · cases hd
  | _ => cases hd

theorem switchable_of_ofValues {index : Nat} {values : List Value} {rules : List Rule}
    (h : ofValues index values = .ok rules) : ∀ r ∈ rules, r.options.flags.Switchable := by
  induction values generalizing index rules with
  | nil =>
    cases h
    exact nofun
  | cons v rest ih =>
    obtain ⟨first, hfirst, h⟩ := Except.bind_eq_ok_iff.mp h
    obtain ⟨others, hothers, h⟩ := Except.bind_eq_ok_iff.mp h
    obtain rfl := Except.ok.inj h
    exact List.forall_mem_cons.mpr ⟨switchable_of_ofValue hfirst, ih hothers⟩

theorem switchable_of_load {files : Files} {path : Text} {rules : List Rule}
    (h : load files path = .ok rules) : ∀ r ∈ rules, r.options.flags.Switchable := by
  obtain ⟨entries, -, h⟩ := Except.bind_eq_ok_iff.mp h
  exact switchable_of_ofValues (Except.mapError_eq_ok_iff.mp h)

/-! ### What can be wrong with a rule when it is applied -/

/-- A rule carries its template, so it is never found malformed. -/
theorem apply_ne_template_error (r : Rule) (text : Text) (e : Template.Error) :
    r.apply text ≠ .error (.template e) := by
  intro h
  rw [apply, substituteText, substituteGiven_eq] at h
  rcases Except.bind_eq_error_iff.mp h with h | ⟨_, -, h⟩
  · cases h
  rcases Except.bind_eq_error_iff.mp h with h | ⟨_, -, h⟩
  · obtain ⟨_, -, h⟩ := Except.mapError_eq_error_iff.mp h
    cases h
  · obtain ⟨_, h⟩ | ⟨_, h⟩ := reference_or_search_of_substitute h <;> cases h

/-- Its pattern is read whenever the rule is applied, and may be malformed. -/
theorem apply_eq_pattern_error_iff {r : Rule} {text : Text} {e : PatternError} :
    r.apply text = .error (.pattern e) ↔
      Pattern.compile r.pattern r.options.flags = .error e := by
  rw [apply, substituteText, substituteGiven_eq]
  constructor
  · intro h
    rcases Except.bind_eq_error_iff.mp h with h | ⟨_, -, h⟩
    · cases h
    rcases Except.bind_eq_error_iff.mp h with h | ⟨_, -, h⟩
    · obtain ⟨_, he, h⟩ := Except.mapError_eq_error_iff.mp h
      cases h
      exact he
    · obtain ⟨_, h⟩ | ⟨_, h⟩ := reference_or_search_of_substitute h <;> cases h
  · intro h
    rw [Pattern.given, h]
    rfl

end Rule

namespace Session

variable {s : Session} {action : Step} {r : Rule}

/-! ### What a step does -/

/-- The step replaces the rules by those of a file. -/
def Step.Loads (action : Step) : Prop :=
  ∃ files path rules, action = .loadRules files path ∧ Rule.load files path = .ok rules

/-- **How options and rules can change in one step**: not at all; the options by a mapping, a file
or switches; the rules by one that is appended under the present options, or by those of a file. -/
inductive Change (s : Session) (action : Step) (after : Session) : Prop
  | none (options : after.options = s.options) (rules : after.rules = s.rules)
      (loads : ¬action.Loads)
  | mapping {place : Text} {entries : List (Value × Value)}
      (options : Options.ofMapping place entries = .ok after.options)
      (rules : after.rules = s.rules) (loads : ¬action.Loads)
  | file {files : Files} {path : Text} (options : Options.load files path = .ok after.options)
      (rules : after.rules = s.rules) (loads : ¬action.Loads)
  | switches {switches : Overrides} (options : after.options = s.options.override switches)
      (rules : after.rules = s.rules) (loads : ¬action.Loads)
  | append {r : Rule} (options : after.options = s.options)
      (rules : after.rules = s.rules ++ [r])
      (added : action = .addRule r.pattern r.replacement)
      (made : Rule.make r.pattern r.replacement s.options = .ok r)
  | load {files : Files} {path : Text} (options : after.options = s.options)
      (rules : Rule.load files path = .ok after.rules)

/-- Only the step that is there for it loads rules. -/
theorem Step.not_loads (h : ∀ files path, action ≠ .loadRules files path) : ¬action.Loads := by
  rintro ⟨files, path, -, hloads, -⟩
  exact h files path hloads

/-- **A step that fails changes nothing.** -/
theorem step_eq_self {failure : Failure} (h : (s.step action).1 = .error failure) :
    (s.step action).2 = s := by
  rw [step] at h ⊢
  split at h
  · cases h
  · rfl

/-- A step that succeeds makes one of the changes. -/
theorem change_of_attempt {answer : Answer} {after : Session}
    (h : s.attempt action = .ok (answer, after)) : Change s action after := by
  cases action with
  | setText text =>
    cases h
    exact .none rfl rfl (Step.not_loads nofun)
  | setOptions entries =>
    obtain ⟨o, ho, h⟩ := Except.bind_eq_ok_iff.mp h
    cases h
    exact .mapping (Except.mapError_eq_ok_iff.mp ho) rfl (Step.not_loads nofun)
  | loadOptions files path =>
    obtain ⟨o, ho, h⟩ := Except.bind_eq_ok_iff.mp h
    cases h
    exact .file (Except.mapError_eq_ok_iff.mp ho) rfl (Step.not_loads nofun)
  | override switches =>
    cases h
    exact .switches rfl rfl (Step.not_loads nofun)
  | compile name template =>
    obtain ⟨t, -, h⟩ := Except.bind_eq_ok_iff.mp h
    cases h
    exact .none rfl rfl (Step.not_loads nofun)
  | render name captures =>
    obtain ⟨t, -, h⟩ := Except.bind_eq_ok_iff.mp h
    obtain ⟨text, -, h⟩ := Except.bind_eq_ok_iff.mp h
    cases h
    exact .none rfl rfl (Step.not_loads nofun)
  | substitute pattern template =>
    obtain ⟨done, -, h⟩ := Except.bind_eq_ok_iff.mp h
    cases h
    exact .none rfl rfl (Step.not_loads nofun)
  | substituteNamed pattern name =>
    obtain ⟨t, -, h⟩ := Except.bind_eq_ok_iff.mp h
    obtain ⟨done, -, h⟩ := Except.bind_eq_ok_iff.mp h
    cases h
    exact .none rfl rfl (Step.not_loads nofun)
  | addRule pattern replacement =>
    obtain ⟨rule, hrule, h⟩ := Except.bind_eq_ok_iff.mp h
    cases h
    have hmade := Except.mapError_eq_ok_iff.mp hrule
    obtain ⟨rfl, rfl, -, -⟩ := Rule.make_eq_ok_iff.mp hmade
    exact .append rfl rfl rfl hmade
  | loadRules files path =>
    obtain ⟨rules, hrules, h⟩ := Except.bind_eq_ok_iff.mp h
    cases h
    exact .load rfl (Except.mapError_eq_ok_iff.mp hrules)
  | applyRules =>
    obtain ⟨done, -, h⟩ := Except.bind_eq_ok_iff.mp h
    cases h
    exact .none rfl rfl (Step.not_loads nofun)

/-- **Every step makes one of the changes.** -/
theorem change_step (s : Session) (action : Step) : Change s action (s.step action).2 := by
  cases h : s.attempt action with
  | ok taken =>
    have hafter : (s.step action).2 = taken.2 := by rw [step, h]
    rw [hafter]
    exact change_of_attempt h
  | error failure =>
    have hafter : (s.step action).2 = s := by rw [step, h]
    rw [hafter]
    refine .none rfl rfl ?_
    -- A file that can be loaded would not have made the step fail.
    rintro ⟨files, path, rules, rfl, hrules⟩
    rw [attempt, hrules] at h
    cases h

/-! ### Steps in a row -/

/-- The session after steps taken one after another. -/
def after (s : Session) (actions : List Step) : Session :=
  actions.foldl (fun s action => (s.step action).2) s

@[simp] theorem after_nil (s : Session) : s.after [] = s := rfl

@[simp] theorem after_append_singleton (s : Session) (actions : List Step) (action : Step) :
    s.after (actions ++ [action]) = ((s.after actions).step action).2 := by
  rw [after, List.foldl_append]
  rfl

/-- **What a run goes through**: its last entry is the step taken behind all the others. -/
theorem run_append_singleton (s : Session) (actions : List Step) (action : Step) :
    s.run (actions ++ [action]) = s.run actions ++ [(s.after actions).step action] := by
  induction actions generalizing s with
  | nil => rfl
  | cons first rest ih =>
    rw [List.cons_append, run, run, ih]
    rfl

/-- **The rule has been appended by a step, and no rules file has been loaded since.** -/
def AppendedSinceLoad (start : Session) (actions : List Step) (r : Rule) : Prop :=
  ∃ before rest, actions = before ++ .addRule r.pattern r.replacement :: rest ∧
    Rule.make r.pattern r.replacement (start.after before).options = .ok r ∧
    ∀ action ∈ rest, ¬action.Loads

/-- It stays appended if a further step loads nothing. -/
theorem AppendedSinceLoad.append_singleton {start : Session} {actions : List Step}
    (h : AppendedSinceLoad start actions r) (hloads : ¬action.Loads) :
    AppendedSinceLoad start (actions ++ [action]) r := by
  obtain ⟨before, rest, rfl, hmade, hrest⟩ := h
  refine ⟨before, rest ++ [action], by simp, hmade, ?_⟩
  exact List.forall_mem_append.mpr ⟨hrest, List.forall_mem_singleton.mpr hloads⟩

section Start

variable {start : Session} {actions : List Step}

/-- **The flags of the options stay switchable.** -/
theorem switchable_after (hstart : start.options.flags.Switchable) :
    (start.after actions).options.flags.Switchable := by
  induction actions using List.reverseRecOn with
  | nil => exact hstart
  | append_singleton actions action ih =>
    rw [after_append_singleton]
    cases change_step (start.after actions) action with
    | none options => exact options ▸ ih
    | mapping options => exact Options.switchable_of_ofMapping options
    | file options => exact Options.switchable_of_load options
    | switches options =>
      rw [options]
      exact ih.or (Overrides.switchable_flags _)
    | append options => exact options ▸ ih
    | load options => exact options ▸ ih

/-- **Where the rules come from**, if there are none at the start: each of them has been loaded from
a file, or appended since the last file was loaded. -/
theorem mem_rules_after (hstart : start.rules = []) (h : r ∈ (start.after actions).rules) :
    (∃ files path rules, Rule.load files path = .ok rules ∧ r ∈ rules) ∨
      AppendedSinceLoad start actions r := by
  induction actions using List.reverseRecOn with
  | nil =>
    rw [after_nil, hstart] at h
    cases h
  | append_singleton actions action ih =>
    rw [after_append_singleton] at h
    -- What was there before is still there, and is where it came from.
    have hkept (hrules : ((start.after actions).step action).2.rules = (start.after actions).rules)
        (hloads : ¬action.Loads) :
        (∃ files path rules, Rule.load files path = .ok rules ∧ r ∈ rules) ∨
          AppendedSinceLoad start (actions ++ [action]) r :=
      (ih (hrules ▸ h)).imp id fun hadded => hadded.append_singleton hloads
    cases change_step (start.after actions) action with
    | none _ rules loads => exact hkept rules loads
    | mapping _ rules loads => exact hkept rules loads
    | file _ rules loads => exact hkept rules loads
    | switches _ rules loads => exact hkept rules loads
    | append _ rules added made =>
      rw [rules] at h
      rcases List.mem_append.mp h with h | h
      · refine (ih h).imp id fun hadded => hadded.append_singleton ?_
        exact added ▸ Step.not_loads nofun
      · obtain rfl := List.mem_singleton.mp h
        exact .inr ⟨actions, [], by rw [added], made, nofun⟩
    | load _ rules => exact .inl ⟨_, _, _, rules, h⟩

/-- What a rule carries is known from either place that it can come from. -/
theorem rule_of_mem_after (hoptions : start.options.flags.Switchable) (hrules : start.rules = [])
    (h : r ∈ (start.after actions).rules) :
    r.options.flags.Switchable ∧ Template.compile r.replacement = .ok r.template := by
  rcases mem_rules_after hrules h with ⟨files, path, rules, hload, hr⟩ | ⟨before, _, _, hmade, _⟩
  · exact ⟨Rule.switchable_of_load hload r hr, (Rule.sound_of_load hload r hr).compile_replacement⟩
  · obtain ⟨-, -, hr, ht⟩ := Rule.make_eq_ok_iff.mp hmade
    exact ⟨hr ▸ switchable_after hoptions, ht⟩

/-- A rule whose pattern is malformed has not been loaded. -/
theorem appendedSinceLoad_of_malformed (hrules : start.rules = [])
    (h : r ∈ (start.after actions).rules) {e : PatternError}
    (hpattern : Pattern.compile r.pattern r.options.flags = .error e) :
    AppendedSinceLoad start actions r := by
  rcases mem_rules_after hrules h with ⟨files, path, rules, hload, hr⟩ | hadded
  · obtain ⟨p, hp⟩ := (Rule.sound_of_load hload r hr).exists_pattern
    cases hp.symm.trans hpattern
  · exact hadded

end Start

/-- The step that applies the rules fails as they do in a row. -/
theorem applyRules_eq_error_iff {e : SubstituteError} :
    (s.step .applyRules).1 = .error (.substitute e) ↔ Rule.applyAll s.text s.rules = .error e := by
  rw [step, attempt]
  cases Rule.applyAll s.text s.rules with
  | ok done =>
    constructor
    · nofun
    · nofun
  | error e' =>
    constructor
    · intro h
      cases h
      rfl
    · intro h
      cases h
      rfl

/-- **What holds in every state of a session** that begins with a text, the default options and no
rules, after any steps in any order.

* The flags of the options and of every rule are ones that a switch can turn on.
* The template of every rule is the one that its replacement writes, in normal form. Hence no rule
  that is applied finds a template malformed.
* If a rule that is applied finds its pattern malformed, then the rules in front of it have been
  applied, and the rule has been appended since the last time that a rules file was loaded.
* A step that fails leaves everything as it was, also when it is the application of rules of which
  some have already been applied. -/
theorem after_invariant (text : Text) (actions : List Step) :
    let s := ({ text } : Session).after actions
    s.options.flags.Switchable ∧
    (∀ r ∈ s.rules, r.options.flags.Switchable ∧
      Template.compile r.replacement = .ok r.template ∧ r.template.IsNormal) ∧
    (∀ e, (s.step .applyRules).1 ≠ .error (.substitute (.template e))) ∧
    (∀ e, (s.step .applyRules).1 = .error (.substitute (.pattern e)) →
      ∃ before r rest done, s.rules = before ++ r :: rest ∧
        Rule.applyAll s.text before = .ok done ∧
        Pattern.compile r.pattern r.options.flags = .error e ∧
        AppendedSinceLoad { text } actions r) ∧
    ∀ action failure, (s.step action).1 = .error failure →
      (s.step action).2 = s ∧
      ({ text } : Session).run (actions ++ [action]) =
        ({ text } : Session).run actions ++ [(.error failure, s)] := by
  intro s
  have hrules : ∀ r ∈ s.rules, r.options.flags.Switchable ∧
      Template.compile r.replacement = .ok r.template := fun r hr =>
    rule_of_mem_after Flags.switchable_zero rfl hr
  refine ⟨switchable_after Flags.switchable_zero, fun r hr => ?_, fun e he => ?_, fun e he => ?_,
    fun action failure h => ?_⟩
  · obtain ⟨hflags, ht⟩ := hrules r hr
    exact ⟨hflags, ht, Template.isNormal_of_compile ht⟩
  · obtain ⟨_, r, _, done, -, -, hr⟩ :=
      Rule.applyAll_eq_error_iff.mp (applyRules_eq_error_iff.mp he)
    exact r.apply_ne_template_error done.text e hr
  · obtain ⟨before, r, rest, done, hsplit, hbefore, hr⟩ :=
      Rule.applyAll_eq_error_iff.mp (applyRules_eq_error_iff.mp he)
    have hpattern := Rule.apply_eq_pattern_error_iff.mp hr
    have hmem : r ∈ s.rules := hsplit ▸ List.mem_append_right _ List.mem_cons_self
    exact ⟨before, r, rest, done, hsplit, hbefore, hpattern,
      appendedSinceLoad_of_malformed rfl hmem hpattern⟩
  · have hself := step_eq_self h
    have hstep : s.step action = (.error failure, s) := Prod.ext h hself
    exact ⟨hself, by rw [run_append_singleton, ← hstep]⟩

/-- A rule from a file rewrites the text before the one that was appended behind it is found
malformed; nothing has changed afterwards, and it is the appended one that is to blame. -/
theorem after_invariant_malformed :
    ∃ files first r s, Rule.load files "r".toList = .ok [first] ∧
      s = ({ text := "ac".toList } : Session).after
        [.loadRules files "r".toList, .addRule "(".toList "x".toList] ∧
      Rule.applyAll s.text [first] = .ok ⟨"bc".toList, 1⟩ ∧
      s.step .applyRules =
        (.error (.substitute (.pattern (.malformed "(".toList 0 .unterminatedGroup))), s) ∧
      s.rules = [first, r] ∧
      AppendedSinceLoad { text := "ac".toList }
        [.loadRules files "r".toList, .addRule "(".toList "x".toList] r := by
  have hload : (Rule.load (.ofEntries [("r".toList, .bytes
      "- \x7bpattern: a, replacement: b\x7d\n".toUTF8.toList)]) "r".toList).toOption =
      some [⟨"a".toList, "b".toList, {}, ⟨[.literal "b".toList]⟩⟩] := by decide +kernel
  obtain ⟨files, hload⟩ : ∃ files, Rule.load files "r".toList =
      .ok [⟨"a".toList, "b".toList, {}, ⟨[.literal "b".toList]⟩⟩] :=
    ⟨_, Except.toOption_eq_some_iff.mp hload⟩
  obtain ⟨-, -, -, hmalformed, hfails⟩ := after_invariant "ac".toList
    [.loadRules files "r".toList, .addRule "(".toList "x".toList]
  have hafter : ({ text := "ac".toList } : Session).after
      [.loadRules files "r".toList, .addRule "(".toList "x".toList] =
      { text := "ac".toList
        rules := [⟨"a".toList, "b".toList, {}, ⟨[.literal "b".toList]⟩⟩,
          ⟨"(".toList, "x".toList, {}, ⟨[.literal "x".toList]⟩⟩] } := by
    simp only [after, List.foldl_cons, step, attempt, hload]
    rfl
  rw [hafter] at hmalformed hfails
  have herror := applyRules_eq_error_iff (s := { text := "ac".toList, rules := _ }).mpr
    (show Rule.applyAll "ac".toList [⟨"a".toList, "b".toList, {}, ⟨[.literal "b".toList]⟩⟩,
      ⟨"(".toList, "x".toList, {}, ⟨[.literal "x".toList]⟩⟩] =
      .error (.pattern (.malformed "(".toList 0 .unterminatedGroup)) from rfl)
  obtain ⟨before, r, rest, done, hsplit, -, hpattern, hadded⟩ := hmalformed _ herror
  refine ⟨files, _, r, _, hload, hafter.symm, rfl, Prod.ext herror (hfails _ _ herror).1, ?_,
    hadded⟩
  -- The pattern of the first rule is not malformed, so the appended one is meant.
  rcases before with - | ⟨x, - | ⟨y, before⟩⟩
  · cases hsplit
    cases hpattern
  · cases hsplit
    rfl
  · simp at hsplit

end Session

end Substitution
