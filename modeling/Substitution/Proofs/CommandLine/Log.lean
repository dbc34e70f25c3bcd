import Substitution.CommandLine.Log

/-!
# The warnings in a log

Of the lines of a log only the warnings depend on what has been compiled before. They come from the
patterns alone (`Substitution.CommandLine.filter_linesFrom`), so what a run warns about is known
once it is known which patterns it compiles, in which order. `Substitution.CommandLine.warningLines`
writes these warnings down.

Most patterns have nothing doubtful about them, and then there is nothing to write:
`Substitution.CommandLine.warningLines_eq_nil`.
-/

namespace Substitution

namespace CommandLine

/-- The compilation that an event is, if it is one. -/
def Event.compiled? : Event → Option Compilation
  | told .. => none
  | compiled c => some c

variable {origin : CompileSite → SourceLine} {m : Memory}

/-- **All warnings come from the patterns that are compiled**: what is told besides can be left out
before the log is written as well as behind. -/
theorem filter_linesFrom (events : List Event) :
    (linesFrom origin m events).filter LogLine.isWarning =
      linesFrom origin m ((events.filterMap Event.compiled?).map .compiled) := by
  induction events generalizing m with
  | nil => rfl
  | cons event rest ih =>
    cases event with
    | told source message => exact ih
    | compiled c =>
      have hnews : ((m.news c).map (LogLine.warning (origin c.site))).filter LogLine.isWarning =
          (m.news c).map (LogLine.warning (origin c.site)) := by
        refine List.filter_eq_self.mpr fun l hl => ?_
        obtain ⟨w, -, rfl⟩ := List.mem_map.mp hl
        rfl
      rw [linesFrom, List.filter_append, hnews, ih]
      rfl

/-- What is told in a log has been told in an event. -/
theorem told_mem_of_mem_linesFrom {events : List Event} {source : String} {message : Text}
    (h : LogLine.told source message ∈ linesFrom origin m events) :
    .told source message ∈ events := by
  induction events generalizing m with
  | nil => cases h
  | cons event rest ih =>
    cases event with
    | told source' message' =>
      rcases List.mem_cons.mp h with h | h
      · cases h
        exact List.mem_cons_self
      · exact List.mem_cons_of_mem _ (ih h)
    | compiled c =>
      rcases List.mem_append.mp h with h | h
      · obtain ⟨w, -, h⟩ := List.mem_map.mp h
        cases h
      · exact List.mem_cons_of_mem _ (ih h)

/-- Compilations without news leave no lines. -/
theorem linesFrom_eq_nil {cs : List Compilation}
    (h : ∀ m : Memory, ∀ c ∈ cs, m.news c = []) : linesFrom origin m (cs.map .compiled) = [] := by
  induction cs generalizing m with
  | nil => rfl
  | cons c rest ih =>
    rw [List.map_cons, linesFrom, h m c List.mem_cons_self,
      ih fun m c hc => h m c (List.mem_cons_of_mem _ hc)]
    rfl

/-- **The warnings about patterns that are compiled one after another**, with nothing remembered
before. -/
def warningLines (files : Files) (cs : List Compilation) : List Text :=
  (linesFrom files.origin {} (cs.map .compiled)).map LogLine.text

@[simp] theorem warningLines_nil (files : Files) : warningLines files [] = [] :=
  rfl

/-- **A pattern that is compiled alone is warned about in full.** -/
theorem warningLines_singleton (files : Files) (c : Compilation) :
    warningLines files [c] = (Pattern.warnings c.pattern c.flags).map fun w =>
      (LogLine.warning (files.origin c.site) w).text := by
  have hnews : ({} : Memory).news c = Pattern.warnings c.pattern c.flags := by
    rw [Memory.news, if_neg List.not_mem_nil]
    exact List.filter_eq_self.mpr fun w _ => decide_eq_true List.not_mem_nil
  rw [warningLines, List.map_singleton, linesFrom, hnews, linesFrom, List.append_nil, List.map_map]
  rfl

/-- **Patterns without doubtful sets are not warned about.** -/
theorem warningLines_eq_nil {files : Files} {cs : List Compilation}
    (h : ∀ c ∈ cs, Pattern.warnings c.pattern c.flags = []) : warningLines files cs = [] := by
  rw [warningLines, linesFrom_eq_nil fun m c hc => ?_]
  · rfl
  · rw [Memory.news, h c hc, List.filter_nil, ite_self]

end CommandLine

end Substitution
