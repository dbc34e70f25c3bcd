import Substitution.Proofs.CommandLine.Stages
import Substitution.Proofs.Rule.Loaded

/-!
# What the commands warn about

The command `sub` compiles one pattern, and only if nothing fails before:
`Substitution.CommandLine.warningLines_substituteCompiled`. The command `apply` compiles each
pattern of a rules file twice: when the file is loaded, and when the rule is applied. The second
time nothing is said of it, because the pattern is still kept
(`Substitution.CommandLine.Memory.Keeps`). This is so as long as no more patterns are compiled than
can be kept; then none is given up, and the file is warned about as if it had only been loaded:
`Substitution.CommandLine.warningLines_applyCompiled`.
-/

namespace Substitution

namespace CommandLine

namespace Memory

variable {m : Memory} {c d : Compilation}

/-- **The pattern is kept**, with its flags. -/
def Keeps (m : Memory) (c : Compilation) : Prop :=
  (c.pattern, c.flags) ∈ m.patterns

/-- A pattern that is kept is not read again. -/
theorem Keeps.news_eq_nil (h : m.Keeps c) : m.news c = [] :=
  if_pos h

theorem Keeps.after_eq_self (h : m.Keeps c) : m.after c = m := by
  rw [after, h.news_eq_nil, if_pos (.inl h)]
  rfl

/-- What is remembered once patterns have been compiled one after another. -/
def afterAll (m : Memory) (cs : List Compilation) : Memory :=
  cs.foldl after m

theorem length_patterns_after_le (m : Memory) (c : Compilation) :
    (m.after c).patterns.length ≤ m.patterns.length + 1 := by
  rw [after]
  dsimp only
  split
  · exact Nat.le_succ _
  · exact (List.length_take_le' _ _).trans_eq (List.length_cons ..)

/-- As long as there is room, no pattern is given up. -/
theorem Keeps.after (h : m.Keeps c) (hroom : m.patterns.length < capacity) (d : Compilation) :
    (m.after d).Keeps c := by
  rw [Keeps, Memory.after]
  dsimp only
  split
  · exact h
  · rw [List.take_of_length_le hroom]
    exact List.mem_cons_of_mem _ h

theorem Keeps.afterAll {cs : List Compilation} (h : m.Keeps c)
    (hroom : m.patterns.length + cs.length ≤ capacity) : (m.afterAll cs).Keeps c := by
  induction cs generalizing m with
  | nil => exact h
  | cons d rest ih =>
    have hlength := m.length_patterns_after_le d
    rw [List.length_cons] at hroom
    exact ih (h.after (by omega) d) (by omega)

/-- A text that is a pattern is kept once it has been compiled. -/
theorem keeps_after {p : Pattern} (hp : Pattern.compile c.pattern c.flags = .ok p) (m : Memory) :
    (m.after c).Keeps c := by
  by_cases h : m.Keeps c
  · exact h.after_eq_self.symm ▸ h
  · have hnew : ¬((c.pattern, c.flags) ∈ m.patterns ∨
        (Pattern.compile c.pattern c.flags).isOk = false) := by
      rw [hp]
      exact not_or.mpr ⟨h, Bool.noConfusion⟩
    rw [Keeps, after, if_neg hnew]
    exact List.mem_cons_self

/-- **If there is room for all of them, every pattern that has been compiled is kept.** -/
theorem keeps_afterAll {cs : List Compilation} {p : Pattern} (hc : c ∈ cs)
    (hp : Pattern.compile c.pattern c.flags = .ok p)
    (hroom : m.patterns.length + cs.length ≤ capacity) : (m.afterAll cs).Keeps c := by
  induction cs generalizing m with
  | nil => cases hc
  | cons d rest ih =>
    have hlength := m.length_patterns_after_le d
    rw [List.length_cons] at hroom
    rcases List.mem_cons.mp hc with rfl | hc
    · exact (keeps_after hp m).afterAll (by omega)
    · exact ih hc (by omega)

end Memory

variable {origin : CompileSite → SourceLine} {m : Memory}

theorem linesFrom_append (cs ds : List Compilation) :
    linesFrom origin m ((cs ++ ds).map .compiled) =
      linesFrom origin m (cs.map .compiled) ++
        linesFrom origin (m.afterAll cs) (ds.map .compiled) := by
  induction cs generalizing m with
  | nil => rfl
  | cons c rest ih =>
    rw [List.cons_append, List.map_cons, linesFrom, ih, ← List.append_assoc]
    rfl

/-- **Nothing is said of patterns that are kept.** -/
theorem linesFrom_of_keeps {cs : List Compilation} (h : ∀ c ∈ cs, m.Keeps c) :
    linesFrom origin m (cs.map .compiled) = [] := by
  induction cs with
  | nil => rfl
  | cons c rest ih =>
    obtain ⟨hc, hrest⟩ := List.forall_mem_cons.mp h
    rw [List.map_cons, linesFrom, hc.news_eq_nil, hc.after_eq_self]
    exact ih hrest

/-! ### The commands -/

/-- **A run of `sub` that comes as far as its pattern warns about it in full.** -/
theorem warningLines_substituteCompiled {a : Arguments} {files : Files} {standard : List UInt8}
    {o : Options} {text : Text} {t : Template} (ho : a.givenOptions files = .ok o)
    (htext : a.inputText files standard = .ok text)
    (ht : Template.compile (a.valueOf replacementFlag) = .ok t) :
    warningLines files (a.substituteCompiled files standard) =
      (Pattern.warnings (a.valueOf patternFlag) (o.override a.switches).flags).map fun w =>
        (LogLine.warning (files.origin .search) w).text := by
  rw [Arguments.substituteCompiled, ho, ifOk, Arguments.rewriteCompiled, htext, ht, ifOk, ifOk]
  exact warningLines_singleton files _

theorem length_compiledOnLoad_le (index : Nat) (entries : List Value) :
    (compiledOnLoad index entries).length ≤ entries.length := by
  induction entries generalizing index with
  | nil => exact Nat.le_refl 0
  | cons v rest ih =>
    have hentry : (compiledOfEntry index v).length ≤ 1 := by
      rw [compiledOfEntry]
      cases Rule.Draft.ofValue (EntryError.place index) v with
      | ok d => exact Nat.le_refl 1
      | error e => exact Nat.zero_le 1
    have hrest : (ifOk (Rule.ofValue index v) fun _ => compiledOnLoad (index + 1) rest).length ≤
        rest.length := by
      cases Rule.ofValue index v with
      | ok rule => exact ih (index + 1)
      | error e => exact Nat.zero_le _
    rw [compiledOnLoad, List.length_append, List.length_cons]
    omega

/-- The pattern of each rule is compiled when the rules are loaded. -/
theorem mem_compiledOnLoad {index : Nat} {entries : List Value} {rules : List Rule}
    (h : Rule.ofValues index entries = .ok rules) {r : Rule} (hr : r ∈ rules) :
    ⟨.entry, r.pattern, r.options.flags⟩ ∈ compiledOnLoad index entries := by
  induction entries generalizing index rules with
  | nil =>
    cases h
    cases hr
  | cons v rest ih =>
    obtain ⟨first, hfirst, h⟩ := Except.bind_eq_ok_iff.mp h
    obtain ⟨others, hothers, h⟩ := Except.bind_eq_ok_iff.mp h
    obtain rfl : first :: others = rules := Except.ok.inj h
    rw [compiledOnLoad, hfirst, List.mem_append]
    rcases List.mem_cons.mp hr with rfl | hr
    · obtain ⟨d, hd, hr⟩ := Except.bind_eq_ok_iff.mp (Except.mapError_eq_ok_iff.mp hfirst)
      obtain ⟨hpattern, -, hoptions, -⟩ := Rule.Draft.finish_eq_ok_iff.mp hr
      rw [compiledOfEntry, hd, hpattern, hoptions]
      exact .inl (List.mem_singleton.mpr rfl)
    · exact .inr (ih hothers hr)

theorem mem_compiledOnApply {text : Text} {rules : List Rule} {c : Compilation}
    (h : c ∈ compiledOnApply text rules) :
    ∃ r ∈ rules, c = ⟨.search, r.pattern, r.options.flags⟩ := by
  induction rules generalizing text with
  | nil => cases h
  | cons r rest ih =>
    rcases List.mem_cons.mp h with rfl | h
    · exact ⟨r, List.mem_cons_self, rfl⟩
    · cases hfirst : r.apply text with
      | error e =>
        rw [hfirst] at h
        cases h
      | ok first =>
        rw [hfirst] at h
        obtain ⟨r', hr', hc⟩ := ih h
        exact ⟨r', List.mem_cons_of_mem _ hr', hc⟩

/-- **A rules file is warned about once.** If it has no more entries than patterns can be kept and
gives rules, then `apply` warns as if it only loaded them, whatever the text is and however many
of the rules are applied to it. -/
theorem warningLines_applyCompiled {a : Arguments} {files : Files} {entries : List Value}
    {rules : List Rule} (hentries : Rule.readEntries files (a.valueOf rulesFlag) = .ok entries)
    (hrules : Rule.load files (a.valueOf rulesFlag) = .ok rules)
    (hroom : entries.length ≤ Memory.capacity) (standard : List UInt8) :
    warningLines files (a.applyCompiled files standard) =
      warningLines files (compiledOnLoad 0 entries) := by
  have hvalues : Rule.ofValues 0 entries = .ok rules := by
    obtain ⟨entries', hentries', h⟩ := Except.bind_eq_ok_iff.mp hrules
    obtain rfl : entries = entries' := Except.ok.inj (hentries.symm.trans hentries')
    exact Except.mapError_eq_ok_iff.mp h
  have hkept (text : Text) : ∀ c ∈ compiledOnApply text rules,
      (({} : Memory).afterAll (compiledOnLoad 0 entries)).Keeps c := by
    intro c hc
    obtain ⟨r, hr, rfl⟩ := mem_compiledOnApply hc
    obtain ⟨⟨p, hp⟩, -⟩ := Rule.sound_of_ofValues hvalues r hr
    have hkeeps := Memory.keeps_afterAll (m := {}) (mem_compiledOnLoad hvalues hr) hp
      (by simpa using (length_compiledOnLoad_le 0 entries).trans hroom)
    exact hkeeps
  rw [Arguments.applyCompiled, hentries, hrules, warningLines, warningLines, ifOk, ifOk,
    linesFrom_append]
  cases a.inputText files standard with
  | error e => rw [ifOk, List.map_nil, linesFrom, List.append_nil]
  | ok text => rw [ifOk, linesFrom_of_keeps (hkept text), List.append_nil]

end CommandLine

end Substitution
