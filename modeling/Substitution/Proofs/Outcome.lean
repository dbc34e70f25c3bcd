import Substitution.CommandLine.Run
import Substitution.Proofs.Pattern.Sequence
import Substitution.Proofs.Template.Rendering

/-!
# When a substitution fails

A substitution goes through three stages and fails in the first one that goes wrong. The first one
reads the template and looks at nothing else. The second one reads the pattern and does not look at
the source. The third one renders the template on the captures of each match that is replaced.

The third stage is decided by little: by whether there is a match at all, and by the number of
groups of the pattern. Every match has a capture for each group, also for those that take no part in
it, so the template can be rendered on all of the matches or on none of them. This is why it makes
no difference to a failure whether all matches are replaced or only the first, and why the number
that the command `check` prints (`Substitution.CommandLine.output_check`) says beforehand which
patterns can make the template fail.

There is one more way to fail. The search for the matches can break off, which it does only for a
pattern with a possessive repetition around a group (`Substitution.Pattern.fault_scan_eq_none`). The
matches in front of that place are rendered before, so a template that fails fails first; and where
only the first match is asked for, the search breaks off only if it has not found one
(`Substitution.substitute_eq_error_iff`).

All stages together are `Substitution.substituteGiven_outcome`.
-/

namespace Substitution

/-! ### The third stage -/

section Stage

variable {all : Bool} {source : Text} {p : Pattern} {t : Template}

theorem mem_matchesIn_of_mem_replacedScan {m : Match}
    (h : m ∈ (replacedScan all p source).found) : m ∈ p.matchesIn source := by
  rw [found_replacedScan] at h
  split at h
  · exact h
  · exact List.mem_of_mem_take h

theorem found_replacedScan_eq_nil_iff :
    (replacedScan all p source).found = [] ↔ p.matchesIn source = [] := by
  rw [found_replacedScan]
  split
  · exact Iff.rfl
  · simp

/-- **The template fails at the first reference beyond the groups of the pattern**, if there is a
match and such a reference. -/
theorem mapM_render_eq_error_iff {e : UnknownReference} :
    (replacedScan all p source).found.mapM (fun m => t.render m.captures) = .error e ↔
      p.matchesIn source ≠ [] ∧
        ∃ number, t.firstBeyond? p.groups = some number ∧ e = ⟨number, p.groups⟩ := by
  -- Every match has as many captures as the pattern has groups, so they all fail alike.
  have hrender : ∀ m ∈ (replacedScan all p source).found, ∀ e, t.render m.captures = .error e ↔
      ∃ number, t.firstBeyond? p.groups = some number ∧ e = ⟨number, p.groups⟩ := by
    intro m hm e
    have hfits := p.fits_of_mem_matchesIn source (mem_matchesIn_of_mem_replacedScan hm)
    rw [Template.render_eq_error_iff, hfits.length_captures]
  rw [Except.mapM_eq_error_iff hrender, Ne, found_replacedScan_eq_nil_iff]

/-- The template can be rendered if there is no match or the pattern has groups enough. -/
theorem exists_mapM_render_eq_ok_iff (all : Bool) :
    (∃ texts, (replacedScan all p source).found.mapM (fun m => t.render m.captures) = .ok texts) ↔
      p.matchesIn source = [] ∨ t.maxReference ≤ p.groups := by
  rw [Except.exists_eq_ok_iff, or_iff_not_imp_left, ← Nat.not_lt,
    ← Template.isSome_firstBeyond?_iff, Option.isSome_iff_exists]
  constructor
  · rintro h hne ⟨number, hnumber⟩
    exact h _ (mapM_render_eq_error_iff.mpr ⟨hne, number, hnumber, rfl⟩)
  · intro h e he
    obtain ⟨hne, number, hnumber, -⟩ := mapM_render_eq_error_iff.mp he
    exact h hne ⟨number, hnumber⟩

/-- **The last stage fails with the template, or else with the search.** -/
theorem substitute_eq_error_iff {e : SubstituteError} :
    substitute all source p t = .error e ↔
      (p.matchesIn source ≠ [] ∧
        ∃ number, t.firstBeyond? p.groups = some number ∧ e = .reference ⟨number, p.groups⟩) ∨
      ((p.matchesIn source = [] ∨ t.maxReference ≤ p.groups) ∧
        ∃ fault, (replacedScan all p source).fault = some fault ∧ e = .search fault) := by
  rw [substitute_eq, Except.bind_eq_error_iff, Except.mapError_eq_error_iff,
    ← exists_mapM_render_eq_ok_iff all]
  simp only [Except.mapError_eq_ok_iff, mapM_render_eq_error_iff]
  refine or_congr ⟨?_, ?_⟩ ?_
  · rintro ⟨_, ⟨hne, number, hnumber, rfl⟩, rfl⟩
    exact ⟨hne, number, hnumber, rfl⟩
  · rintro ⟨hne, number, hnumber, rfl⟩
    exact ⟨_, ⟨hne, number, hnumber, rfl⟩, rfl⟩
  · constructor
    · rintro ⟨texts, htexts, h⟩
      split at h
      · next fault hfault => exact ⟨⟨texts, htexts⟩, fault, hfault, (Except.error.inj h).symm⟩
      · cases h
    · rintro ⟨⟨texts, htexts⟩, fault, hfault, rfl⟩
      exact ⟨texts, htexts, by rw [hfault]⟩

/-- So it never fails with a pattern or with the text of a template. -/
theorem reference_or_search_of_substitute {e : SubstituteError}
    (h : substitute all source p t = .error e) :
    (∃ unknown, e = .reference unknown) ∨ ∃ fault, e = .search fault := by
  obtain ⟨-, number, -, rfl⟩ | ⟨-, fault, -, rfl⟩ := substitute_eq_error_iff.mp h
  · exact .inl ⟨_, rfl⟩
  · exact .inr ⟨fault, rfl⟩

/-- The last stage succeeds if neither fails. -/
theorem exists_substitute_eq_ok_iff :
    (∃ r, substitute all source p t = .ok r) ↔
      (p.matchesIn source = [] ∨ t.maxReference ≤ p.groups) ∧
        (replacedScan all p source).fault = none := by
  rw [← exists_mapM_render_eq_ok_iff all, and_comm]
  simp only [substitute_eq_ok_iff, Except.mapM_eq_ok_iff]
  exact ⟨fun ⟨_, hfault, texts, htexts, _⟩ => ⟨hfault, texts, htexts⟩,
    fun ⟨hfault, texts, htexts⟩ => ⟨_, hfault, texts, htexts, rfl⟩⟩

end Stage

/-! ### The command that checks a template -/

namespace CommandLine

/-- What `check` prints below its table: the number of groups that the template needs, or that it
needs none. -/
theorem output_check (cases : List DemoCase) (files : Files) (standard : List UInt8)
    {replacement : Text} {t : Template} (h : Template.compile replacement = .ok t) :
    (runCommand cases files standard (.check replacement)).output =
      (segmentTable t).text ++ Console.paragraph
        (if t.maxReference = 0 then "No backreferences.".toList
          else "Needs at least ".toList ++ Text.decimal t.maxReference ++
            " capture group(s).".toList) := by
  have hsummary : referenceSummary t = if t.maxReference = 0 then "No backreferences.".toList
      else "Needs at least ".toList ++ Text.decimal t.maxReference ++
        " capture group(s).".toList := by
    rw [referenceSummary]
    simp only [Template.isLiteral_iff]
  rw [← hsummary, runCommand, Command.work, Work.compile, h]
  rfl

end CommandLine

/-! ### All stages -/

section Given

variable {all : Bool} {flags : Flags} {source : Text} {pattern : Text ⊕ Pattern}
  {template : Text ⊕ Template} {p : Pattern} {t : Template}

/-- Where the template and the pattern are known, it does not matter in which form they were given.
-/
theorem substituteGiven_of_given (hp : Pattern.given flags pattern = .ok p)
    (ht : Template.given template = .ok t) :
    substituteGiven all flags source pattern template = substitute all source p t := by
  rw [substituteGiven_eq, hp, ht]
  rfl

theorem substituteGiven_eq_error_iff (hp : Pattern.given flags pattern = .ok p)
    (ht : Template.given template = .ok t) {e : SubstituteError} :
    substituteGiven all flags source pattern template = .error e ↔
      (p.matchesIn source ≠ [] ∧ p.groups < t.maxReference ∧
        ∃ number, t.firstBeyond? p.groups = some number ∧ e = .reference ⟨number, p.groups⟩) ∨
      ((p.matchesIn source = [] ∨ t.maxReference ≤ p.groups) ∧
        ∃ fault, (replacedScan all p source).fault = some fault ∧ e = .search fault) := by
  rw [substituteGiven_of_given hp ht, substitute_eq_error_iff, ← Template.isSome_firstBeyond?_iff]
  refine or_congr (and_congr_right fun _ => ⟨?_, fun h => h.2⟩) Iff.rfl
  rintro ⟨number, hnumber, rfl⟩
  exact ⟨Option.isSome_of_eq_some hnumber, number, hnumber, rfl⟩

end Given

/-- **When a substitution fails, and how.** A template that does not compile fails with its own
error, whatever else is given. Behind a template that compiles, a pattern that does not fails with
its own error, whatever the source. Behind both, there are two ways to fail. If there is a match and
the template refers to a group beyond those of the pattern, the error names the first such reference
and the number of groups, whether all matches are replaced or only the first. Otherwise it fails
exactly if the search for the matches breaks off; a search for the first match does so only where
the search for all of them has found none, and neither does for a steady pattern. Nothing of this
depends on the form in which the template and the pattern are given, and the greatest reference, on
which it does depend, is what `check` prints for the template. -/
theorem substituteGiven_outcome (template : Text) :
    (∀ e, Template.compile template = .error e → ∀ all flags source pattern,
      substituteGiven all flags source pattern (.inl template) = .error (.template e)) ∧
    ∀ t, Template.compile template = .ok t →
      (∀ pattern flags,
        (∀ e, Pattern.compile pattern flags = .error e → ∀ all source,
          substituteGiven all flags source (.inl pattern) (.inl template) =
            .error (.pattern e)) ∧
        ∀ p, Pattern.compile pattern flags = .ok p →
          p.root.groupNumbers = List.range' 1 p.groups ∧
          ∀ source all,
            (∀ e, substituteGiven all flags source (.inl pattern) (.inl template) = .error e ↔
              (p.matchesIn source ≠ [] ∧ p.groups < t.maxReference ∧
                ∃ number, t.firstBeyond? p.groups = some number ∧
                  e = .reference ⟨number, p.groups⟩) ∨
              ((p.matchesIn source = [] ∨ t.maxReference ≤ p.groups) ∧
                ∃ fault, (replacedScan all p source).fault = some fault ∧ e = .search fault)) ∧
            ((∃ r, substituteGiven all flags source (.inl pattern) (.inl template) = .ok r) ↔
              (p.matchesIn source = [] ∨ t.maxReference ≤ p.groups) ∧
                (replacedScan all p source).fault = none) ∧
            (replacedScan all p source).fault =
              (if all ∨ p.matchesIn source = [] then (p.scan source).fault else none) ∧
            (p.root.Steady → (replacedScan all p source).fault = none) ∧
            ∀ flags' pattern' template', Pattern.given flags' pattern' = .ok p →
              Template.given template' = .ok t →
              substituteGiven all flags' source pattern' template' =
                substituteGiven all flags source (.inl pattern) (.inl template)) ∧
      ∀ cases files standard,
        (CommandLine.runCommand cases files standard (.check template)).output =
          (CommandLine.segmentTable t).text ++ Console.paragraph
            (if t.maxReference = 0 then "No backreferences.".toList
              else "Needs at least ".toList ++ Text.decimal t.maxReference ++
                " capture group(s).".toList) := by
  refine ⟨fun e he all flags source pattern => ?_, fun t ht => ⟨fun pattern flags =>
    ⟨fun e he all source => ?_, fun p hp => ⟨Pattern.groupNumbers_eq hp, fun source all =>
      ?_⟩⟩, fun cases files standard => CommandLine.output_check cases files standard ht⟩⟩
  · rw [substituteGiven_eq, Template.given, he]
    rfl
  · rw [substituteGiven_eq, Template.given, ht, Pattern.given, he]
    rfl
  · have hgiven : Pattern.given flags (.inl pattern) = .ok p := hp
    have ht : Template.given (.inl template) = .ok t := ht
    refine ⟨fun e => substituteGiven_eq_error_iff hgiven ht, ?_, fault_replacedScan all p source,
      fun hsteady => ?_, fun flags' pattern' template' hp' ht' => ?_⟩
    · rw [substituteGiven_of_given hgiven ht]
      exact exists_substitute_eq_ok_iff
    · rw [fault_replacedScan, Pattern.fault_scan_eq_none hp hsteady, ite_self]
    · rw [substituteGiven_of_given hgiven ht, substituteGiven_of_given hp' ht']

/-- A group that takes no part in the match counts as one of the groups, so that it is the second
reference that fails, and fails in all forms. -/
theorem substituteGiven_outcome_second :
    ∃ t p, Template.compile "$1$2$3".toList = .ok t ∧
      Pattern.compile "(a)|b".toList 0 = .ok p ∧
      substituteGiven true 0 "bb".toList (.inl "(a)|b".toList) (.inl "$1$2$3".toList) =
        .error (.reference ⟨2, 1⟩) ∧
      substituteGiven true 2 "bb".toList (.inr p) (.inr t) = .error (.reference ⟨2, 1⟩) := by
  have ht : Template.compile "$1$2$3".toList =
      .ok ⟨[.reference 0, .reference 1, .reference 2]⟩ := rfl
  have hp : Pattern.compile "(a)|b".toList 0 = .ok ⟨"(a)|b".toList, 1,
      .alt (.group (some 1) (.one (.code 97 false) ⟨false, true⟩))
        (.one (.code 98 false) ⟨false, true⟩), true⟩ := rfl
  obtain ⟨hstages, -⟩ := (substituteGiven_outcome "$1$2$3".toList).2 _ ht
  obtain ⟨-, hthird⟩ := (hstages _ _).2 _ hp
  obtain ⟨herror, -, -, -, hforms⟩ := hthird "bb".toList true
  have hfails := (herror (.reference ⟨2, 1⟩)).mpr (.inl ⟨by decide, by decide, 2, rfl, rfl⟩)
  exact ⟨_, _, ht, hp, hfails, (hforms 2 (.inr _) (.inr _) rfl rfl).trans hfails⟩

/-- **A substitution that neither succeeds nor lacks a group.** The template has no references and
the pattern matches the source, but the group is entered in vain before the match ends. -/
theorem substituteGiven_entered_in_vain :
    Template.compile "z".toList = .ok ⟨[.literal "z".toList]⟩ ∧
      Template.maxReference ⟨[.literal "z".toList]⟩ = 0 ∧
      (∃ p, Pattern.compile "(?:(a)|b)*+".toList 0 = .ok p ∧ p.groups = 1) ∧
      ∀ all, substituteGiven all 0 "abb".toList (.inl "(?:(a)|b)*+".toList) (.inl "z".toList) =
        .error (.search .wrongSpan) := by
  refine ⟨rfl, rfl, ⟨_, rfl, rfl⟩, fun all => ?_⟩
  cases all with
  | true => rfl
  | false => rfl

end Substitution
