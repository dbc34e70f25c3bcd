import Substitution.Proofs.CommandLine.Attached

/-!
# What the verbose flag changes

A verbose run tells what it does, line by line, before it reports anything, and that is all: what it
prints and how it ends is the same as without the flag, and so are the warnings that it gives.

There are two sides to this. The flag in front of all arguments must not change what the others are
(`Substitution.CommandLine.Invocation.read_verbose`): it takes no value, and the program has no flag
that must be given, so that the reading goes on behind it as if it were not there. And no work may
look at what has been recorded. Every piece of work gives the same and records the same whatever has
been recorded before it (`Substitution.CommandLine.Work.Appends`), also where a failure is caught:
what has been recorded up to the failure stays there.

Templates and patterns are told in quotes, so what is told is one line, and these lines can be told
from what stands between and behind them: `Substitution.CommandLine.run_verbose`.
-/

namespace Substitution

namespace CommandLine

/-! ### The flag in front of the others -/

/-- **In front of all others, the flag is one more flag and changes nothing else.** -/
theorem read_main_verbose (args : List Text) :
    mainGrammar.read ("-v".toList :: args) = (mainGrammar.read args).map fun a =>
      { a with flags := (verboseFlag, none) :: a.flags } := by
  have hrole : mainGrammar.role "-v".toList = .ok (.flag verboseFlag "-v".toList none) := rfl
  rw [Grammar.read, Grammar.roles_cons_eq (by decide) hrole, Grammar.read]
  cases mainGrammar.roles args with
  | error m => rfl
  | ok roles =>
    have hread : mainGrammar.readRoles .vacant none
        (("-v".toList, .flag verboseFlag "-v".toList none) :: roles) =
        (mainGrammar.readRoles .vacant none roles).map fun a =>
          { a with flags := (verboseFlag, none) :: a.flags } := rfl
    change (mainGrammar.readRoles .vacant none _ >>= _) =
      (mainGrammar.readRoles .vacant none roles >>= _).map _
    rw [hread]
    cases mainGrammar.readRoles .vacant none roles with
    | error reason => rfl
    | ok a =>
      -- No flag of the program must be given, so only the command can be missing.
      have hmissing : mainGrammar.missing { a with flags := (verboseFlag, none) :: a.flags } =
          mainGrammar.missing a := rfl
      change (if _ then _ else _) = Except.map _ (if _ then _ else _)
      rw [hmissing]
      split
      · rfl
      · rfl

/-- **The flag makes a run verbose, and everything else is read as it is without it.** -/
theorem Invocation.read_verbose (args : List Text) :
    Invocation.read ("-v".toList :: args) =
      (Invocation.read args).map fun i => { i with verbose := true } := by
  rw [Invocation.read, read_main_verbose, Invocation.read]
  cases mainGrammar.read args with
  | error reason => rfl
  | ok a =>
    change (Command.read (a.operands.headD []) a.operands.tail >>= _) =
      (Command.read (a.operands.headD []) a.operands.tail >>= _).map _
    cases Command.read (a.operands.headD []) a.operands.tail with
    | error reason => rfl
    | ok c =>
      change (if _ then _ else _) = Except.map _ (if _ then _ else _)
      split
      · rfl
      · rfl

/-! ### Work and what is recorded -/

namespace Work

variable {α β : Type} {w : Work α}

/-- **Work only adds to what is recorded**: it gives the same and records the same whatever has been
recorded before, and what it tells is lines. -/
def Appends (w : Work α) : Prop :=
  ∃ x cs, Gives w x cs

theorem Gives.appends {x : Except Failure α} {cs : List Compilation} (h : Gives w x cs) :
    Appends w :=
  ⟨x, cs, h⟩

theorem Appends.bind {f : α → Work β} (hw : Appends w) (hf : ∀ a, Appends (f a)) :
    Appends (w >>= f) := by
  obtain ⟨x, cs, hw⟩ := hw
  choose y ds hf using hf
  exact (hw.bind hf).appends

theorem Appends.map (hw : Appends w) (f : α → β) : Appends (f <$> w) := by
  rw [← bind_pure_comp]
  exact hw.bind fun a => (gives_pure (f a)).appends

/-- **What has been recorded before a failure stays there** when the failure is caught. -/
theorem Appends.tryCatch {handle : Failure → Work α} (hw : Appends w)
    (hhandle : ∀ e, Appends (handle e)) : Appends (tryCatch w handle) := by
  obtain ⟨x, cs, events, hrecords, hcompiled, hlines⟩ := hw
  have hcaught (before : List Event) :
      (ExceptT.run (MonadExcept.tryCatch w handle)).run before =
        StateT.run (match x with
          | .ok a => pure (.ok a)
          | .error e => ExceptT.run (handle e)) (before ++ events) := by
    change StateT.run (ExceptT.run (ExceptT.tryCatch w handle)) before = _
    rw [ExceptT.tryCatch, ExceptT.run_mk, StateT.run_bind]
    change (do let p ← StateT.run (ExceptT.run w) before; _) = _
    rw [hrecords]
    cases x <;> rfl
  cases x with
  | ok a => exact ⟨.ok a, cs, events, hcaught, hcompiled, hlines⟩
  | error e =>
    obtain ⟨y, ds, others, hothers, hotherCompiled, hotherLines⟩ := hhandle e
    refine ⟨y, cs ++ ds, events ++ others, fun before => ?_, ?_,
      List.forall_mem_append.mpr ⟨hlines, hotherLines⟩⟩
    · rw [hcaught, ← List.append_assoc]
      exact hothers (before ++ events)
    · rw [List.filterMap_append, hcompiled, hotherCompiled]

/-- Something may be done for each member of a list. -/
theorem appends_mapM {f : α → Work β} (hf : ∀ a, Appends (f a)) (l : List α) :
    Appends (l.mapM f) := by
  induction l with
  | nil =>
    rw [List.mapM_nil]
    exact (gives_pure _).appends
  | cons a rest ih =>
    rw [List.mapM_cons]
    exact (hf a).bind fun _ => ih.bind fun _ => (gives_pure _).appends

/-! ### The pieces of work -/

theorem appends_readInput (files : Files) (standard : List UInt8) (input : Input) :
    Appends (readInput files standard input) := by
  cases input with
  | standard => exact (gives_lift _ _).appends
  | file path => exact (gives_lift _ _).appends

/-- A case of the demonstration catches the failures that count as results. -/
theorem appends_demoResult (c : DemoCase) : Appends (demoResult c) := by
  refine ((gives_substitute _ _ _ _).appends.map _).tryCatch fun e => ?_
  split
  · exact (gives_pure _).appends
  · exact (gives_pure _).appends
  · exact (gives_throw _).appends

end Work

/-- **The work of every command only adds to what is recorded.** -/
theorem Command.appends_work (demos : List DemoCase) (files : Files) (standard : List UInt8)
    (c : Command) : (c.work demos files standard).Appends := by
  cases c with
  | substitute pattern replacement path switches count input =>
    have hrest (o : Options) : Work.Appends (α := Printed) (do
        let text ← Work.readInput files standard input
        let r ← Work.substitute (o.override switches) text pattern replacement
        return { output := r.text, report := if count then
          ["Replaced ".toList ++ Text.decimal r.count ++ " match(es)".toList] else [] }) :=
      (Work.appends_readInput files standard input).bind fun _ =>
        (Work.gives_substitute _ _ _ _).appends.bind fun _ => (Work.gives_pure _).appends
    cases path with
    | none => exact (Work.gives_pure _).appends.bind hrest
    | some path => exact (Work.gives_lift _ _).appends.bind hrest
  | apply path count input =>
    exact (Work.gives_loadRules files path).appends.bind fun rules =>
      (Work.appends_readInput files standard input).bind fun text =>
        (Work.gives_applyRules text rules).appends.bind fun _ => (Work.gives_pure _).appends
  | check replacement =>
    exact (Work.gives_compile replacement).appends.bind fun _ => (Work.gives_pure _).appends
  | demo =>
    have hcase (c : DemoCase) : Work.Appends (do return (c, ← demoResult c)) :=
      (Work.appends_demoResult c).bind fun _ => (Work.gives_pure _).appends
    exact (Work.appends_mapM hcase demos).bind fun _ => (Work.gives_pure _).appends

/-! ### Two runs -/

section Runs

variable (demos : List DemoCase) (files : Files) (standard : List UInt8) (args : List Text)

/-- Whatever a command tells is lines. -/
theorem isLine_of_told_mem_runCommand {c : Command} {source : String} {message : Text}
    (h : .told source message ∈ (runCommand demos files standard c).log) :
    '\n' ∉ (LogLine.told source message).text := by
  obtain ⟨x, cs, events, hrecords, -, hlines⟩ := c.appends_work demos files standard
  have hwork : (c.work demos files standard).run = (x, events) := hrecords []
  have hlog : (runCommand demos files standard c).log = linesFrom files.origin {} events := by
    rw [runCommand, hwork]
    cases x with
    | ok p => rfl
    | error e =>
      dsimp only
      split <;> rfl
  rw [hlog] at h
  exact hlines _ (told_mem_of_mem_linesFrom h)

/-- A line of a log that is no warning is one line. -/
theorem isLine_of_mem_run {l : LogLine} (h : l ∈ (run demos files standard args).log)
    (hl : l.isWarning = false) : '\n' ∉ l.text := by
  cases l with
  | warning origin w => cases hl
  | told source message =>
    rw [run] at h
    split at h
    next reason _ => cases reason <;> cases h
    next i _ =>
      dsimp only at h
      split at h
      · exact isLine_of_told_mem_runCommand demos files standard h
      · cases (List.mem_filter.mp h).2

/-- **The other run is the verbose one without what is told in its log**, unless it is verbose by
itself. -/
theorem run_eq_run_verbose :
    (∀ c, Invocation.read args = .ok ⟨true, c⟩ →
      run demos files standard args = run demos files standard ("-v".toList :: args)) ∧
    ((∀ c, Invocation.read args ≠ .ok ⟨true, c⟩) →
      run demos files standard args = (run demos files standard ("-v".toList :: args)).quiet) := by
  rw [run, run, Invocation.read_verbose]
  cases Invocation.read args with
  | error reason =>
    refine ⟨fun c hc => absurd hc (by simp), fun _ => ?_⟩
    cases reason <;> rfl
  | ok i =>
    obtain ⟨verbose, c⟩ := i
    cases verbose with
    | true => exact ⟨fun _ _ => rfl, fun h => absurd rfl (h c)⟩
    | false => exact ⟨fun c' hc => absurd hc (by simp), fun _ => rfl⟩

end Runs

/-- **The verbose flag only adds lines to the log.** With the flag in front of the arguments a run
prints the same and ends in the same way, be it with an exit status or abruptly. The lines of its
log come before everything else that it reports, and each of them is a warning or one line. Without
those that are no warnings they are all that the run without the flag reports. If the arguments ask
for a verbose run by themselves, the two runs are the same.

None of this is owed to the end of a run, where what is told is left out: the work of a command
gives the same, and goes on with the same events, whatever has been recorded before. -/
theorem run_verbose (demos : List DemoCase) (files : Files) (standard : List UInt8)
    (args : List Text) :
    let plain := run demos files standard args
    let loud := run demos files standard ("-v".toList :: args)
    (loud.output = plain.output ∧ loud.ending = plain.ending) ∧
    loud.errorLines = loud.log.map LogLine.text ++ loud.report ∧
    (∀ l ∈ loud.log, l.isWarning = false → '\n' ∉ l.text) ∧
    ((∀ c, Invocation.read args ≠ .ok ⟨true, c⟩) →
      plain.errorLines = (loud.log.filter LogLine.isWarning).map LogLine.text ++ loud.report) ∧
    (∀ c, Invocation.read args = .ok ⟨true, c⟩ → plain = loud) ∧
    ∀ c : Command, ∃ x events, ∀ before,
      (ExceptT.run (c.work demos files standard)).run before = (x, before ++ events) := by
  intro plain loud
  obtain ⟨hverbose, hquiet⟩ := run_eq_run_verbose demos files standard args
  refine ⟨?_, rfl, fun l hl => isLine_of_mem_run demos files standard _ hl, fun h => ?_, hverbose,
    fun c => ?_⟩
  · by_cases h : ∃ c, Invocation.read args = .ok ⟨true, c⟩
    · obtain ⟨c, hc⟩ := h
      have hsame : plain = loud := hverbose c hc
      rw [hsame]
      exact ⟨rfl, rfl⟩
    · have hsame : plain = loud.quiet := hquiet fun c hc => h ⟨c, hc⟩
      rw [hsame]
      exact ⟨rfl, rfl⟩
  · have hsame : plain = loud.quiet := hquiet h
    rw [hsame]
    rfl
  · obtain ⟨x, cs, events, hrecords, -⟩ := c.appends_work demos files standard
    exact ⟨x, events, hrecords⟩

/-- A bracket in brackets is warned about, and the template refers to a group that the pattern does
not have. The failure is reported in both runs, and so is the warning; in one of them the template
is told of before. A second flag changes nothing. -/
theorem run_verbose_reference :
    let files : Files := { Files.ofEntries [] with origin := fun _ => ⟨"line".toList, []⟩ }
    let args := ["sub", "--pattern", "[[a]", "--replacement", "$1"].map String.toList
    let plain := run [] files [97] args
    let loud := run [] files [97] ("-v".toList :: args)
    let told := "safesub.template_engine DEBUG Compiled template '$1' into 1 segment(s)".toList
    let warning := "line: FutureWarning: Possible nested set at position 1".toList
    let failure := "Error: Unknown backref $1; there are only 0 captures".toList
    loud.output = plain.output ∧ loud.ending = plain.ending ∧
      plain.errorLines = [warning, failure] ∧ loud.errorLines = [told, warning, failure] ∧
      loud = run [] files [97] ("-v".toList :: "-v".toList :: args) := by
  intro files args plain loud told warning failure
  have hread : Invocation.read args =
      .ok ⟨false, .substitute "[[a]".toList "$1".toList none {} false .standard⟩ := by rfl
  have hread' : Invocation.read ("-v".toList :: args) =
      .ok ⟨true, .substitute "[[a]".toList "$1".toList none {} false .standard⟩ := by rfl
  obtain ⟨⟨houtput, hending⟩, herror, -, hquiet, -⟩ := run_verbose [] files [97] args
  obtain ⟨-, -, -, -, hsame, -⟩ := run_verbose [] files [97] ("-v".toList :: args)
  have hplain : plain.errorLines =
      (loud.log.filter LogLine.isWarning).map LogLine.text ++ loud.report := hquiet fun c hc => by
    rw [hread] at hc
    cases hc
  have hlog : loud.log.map LogLine.text = [told, warning] := by decide +kernel
  have hwarnings : (loud.log.filter LogLine.isWarning).map LogLine.text = [warning] := by
    decide +kernel
  have hreport : loud.report = [failure] := by decide +kernel
  refine ⟨houtput, hending, ?_, ?_, hsame _ hread'⟩
  · rw [hplain, hwarnings, hreport]
    rfl
  · rw [herror, hlog, hreport]
    rfl

/-- **A run that is verbose by itself tells the same lines**, so that more is reported by it than is
left of the other run without them. -/
theorem errorLines_run_verbose_twice :
    let args := ["-v", "sub", "--pattern", "a", "--replacement", "b"].map String.toList
    let plain := run [] (.ofEntries []) [97] args
    let loud := run [] (.ofEntries []) [97] ("-v".toList :: args)
    let lines :=
      ["safesub.template_engine DEBUG Compiled template 'b' into 1 segment(s)".toList,
        "safesub.substitution DEBUG Replaced 1 match(es) of 'a'".toList]
    loud.errorLines = lines ∧ loud.log.map LogLine.text = lines ∧ loud.report = [] ∧
      plain.errorLines = lines ∧
      plain.errorLines ≠ (loud.log.filter LogLine.isWarning).map LogLine.text ++ loud.report := by
  intro args plain loud lines
  have hplain : plain.errorLines = lines := by decide +kernel
  have hleft : (loud.log.filter LogLine.isWarning).map LogLine.text ++ loud.report = [] := by
    decide +kernel
  refine ⟨by decide +kernel, by decide +kernel, by decide +kernel, hplain, ?_⟩
  rw [hplain, hleft]
  exact List.cons_ne_nil _ _

end CommandLine

end Substitution
