import Substitution.Proofs.CommandLine.Work

/-!
# What the commands do, stage by stage

The commands `sub` and `apply` go through stages that are known from the library: settings are
loaded, the input is read, text is rewritten. The first stage that fails decides how the run ends,
and only what the last one gives is printed: `Substitution.CommandLine.run_stages`.

Each stage comes with the patterns that it compiles, up to the point where it fails, since a pattern
can be warned about. A run shows the warnings before anything else, and these are all that a run
tells beside the report of its command (`Substitution.CommandLine.Outcome.Shows`). So a run in which
no set of a pattern is doubtful tells nothing else, and one in which a set is doubtful tells of it
even if everything goes well: `Substitution.CommandLine.run_doubtful`.
-/

namespace Substitution

namespace CommandLine

/-! ### What arguments ask for -/

/-- **The arguments ask for a command**: the program accepts them without the verbose flag, and what
stands behind the name of the command is read as `a`. -/
def Asks (args : List Text) (name : String) (g : Grammar) (a : Arguments) : Prop :=
  ∃ main rest, mainGrammar.read args = .ok main ∧ main.has verboseFlag = false ∧
    main.operands = name.toList :: rest ∧ g.read rest = .ok a ∧ main.extras ++ a.extras = []

variable {args : List Text} {a : Arguments}

/-- What the program reads then is what the command reads. -/
theorem Asks.read_eq {name : String} {g : Grammar} {c : Command} (h : Asks args name g a)
    (hread : ∀ rest, g.read rest = .ok a → Command.read name.toList rest = .ok (c, a.extras)) :
    Invocation.read args = .ok ⟨false, c⟩ := by
  obtain ⟨main, rest, hmain, hverbose, hoperands, ha, hextras⟩ := h
  refine Except.bind_eq_ok_iff.mpr ⟨main, hmain, ?_⟩
  refine Except.bind_eq_ok_iff.mpr ⟨(c, a.extras), ?_, ?_⟩
  · rw [hoperands]
    exact hread rest ha
  · dsimp only
    rw [hextras, hverbose]
    rfl

theorem Asks.read_substitute (h : Asks args "sub" substituteGrammar a) :
    Invocation.read args = .ok ⟨false, .substitute (a.valueOf patternFlag)
      (a.valueOf replacementFlag) ((a.value? optionsFlag).filter fun path => !path.isEmpty)
      a.switches (a.has countFlag) a.input⟩ :=
  h.read_eq fun rest ha => by rw [Command.read, ha]; rfl

theorem Asks.read_apply (h : Asks args "apply" applyGrammar a) :
    Invocation.read args =
      .ok ⟨false, .apply (a.valueOf rulesFlag) (a.has countFlag) a.input⟩ :=
  h.read_eq fun rest ha => by rw [Command.read, ha]; rfl

/-- A command that is read is one of four, with the arguments of its grammar. -/
theorem Command.cases_of_read {name : Text} {rest : List Text} {c : Command} {extras : List Text}
    (h : Command.read name rest = .ok (c, extras)) : ∃ a : Arguments, a.extras = extras ∧
      (name = "sub".toList ∧ substituteGrammar.read rest = .ok a ∨
        name = "apply".toList ∧ applyGrammar.read rest = .ok a ∨
        name = "check".toList ∧ checkGrammar.read rest = .ok a ∨
        name = "demo".toList ∧ demoGrammar.read rest = .ok a) := by
  unfold Command.read at h
  split at h
  next hname =>
    obtain ⟨a, ha, h⟩ := Except.bind_eq_ok_iff.mp h
    exact ⟨a, congrArg Prod.snd (Except.ok.inj h), .inl ⟨hname, ha⟩⟩
  split at h
  next hname =>
    obtain ⟨a, ha, h⟩ := Except.bind_eq_ok_iff.mp h
    exact ⟨a, congrArg Prod.snd (Except.ok.inj h), .inr (.inl ⟨hname, ha⟩)⟩
  split at h
  next hname =>
    obtain ⟨a, ha, h⟩ := Except.bind_eq_ok_iff.mp h
    exact ⟨a, congrArg Prod.snd (Except.ok.inj h), .inr (.inr (.inl ⟨hname, ha⟩))⟩
  split at h
  next hname =>
    obtain ⟨a, ha, h⟩ := Except.bind_eq_ok_iff.mp h
    exact ⟨a, congrArg Prod.snd (Except.ok.inj h), .inr (.inr (.inr ⟨hname, ha⟩))⟩
  cases h

/-- **Every accepted command without the verbose flag is one of four.** -/
theorem asks_of_read {args : List Text} {i : Invocation} (h : Invocation.read args = .ok i)
    (hverbose : i.verbose = false) : ∃ a : Arguments,
      Asks args "sub" substituteGrammar a ∨ Asks args "apply" applyGrammar a ∨
        Asks args "check" checkGrammar a ∨ Asks args "demo" demoGrammar a := by
  obtain ⟨main, hmain, h⟩ := Except.bind_eq_ok_iff.mp h
  obtain ⟨⟨c, extras⟩, hcommand, h⟩ := Except.bind_eq_ok_iff.mp h
  obtain ⟨a, rfl, hcases⟩ := Command.cases_of_read hcommand
  dsimp only at h
  split at h
  next hextras =>
    obtain rfl := Except.ok.inj h
    have hasks {name : String} {g : Grammar} (hne : name.toList ≠ [])
        (hname : main.operands.headD [] = name.toList)
        (hread : g.read main.operands.tail = .ok a) : Asks args name g a := by
      refine ⟨main, main.operands.tail, hmain, hverbose, ?_, hread, List.isEmpty_iff.mp hextras⟩
      cases hoperands : main.operands with
      | nil =>
        rw [hoperands] at hname
        exact absurd hname.symm hne
      | cons first others =>
        rw [hoperands] at hname
        exact congrArg (· :: others) hname
    obtain ⟨hname, hread⟩ | ⟨hname, hread⟩ | ⟨hname, hread⟩ | ⟨hname, hread⟩ := hcases
    · exact ⟨a, .inl (hasks (by decide) hname hread)⟩
    · exact ⟨a, .inr (.inl (hasks (by decide) hname hread))⟩
    · exact ⟨a, .inr (.inr (.inl (hasks (by decide) hname hread)))⟩
    · exact ⟨a, .inr (.inr (.inr (hasks (by decide) hname hread)))⟩
  next => cases h

/-! ### Stages -/

namespace Arguments

/-- The text to work on: that of the file that is named, or of the standard input if none is named
or its name is a dash. -/
def inputText (a : Arguments) (files : Files) (standard : List UInt8) : Except FileError Text :=
  match a.operands with
  | [] => textOfBytes standard
  | path :: _ => if path = ['-'] then textOfBytes standard else files.readWhole path

/-- The options to begin with: those of the options file, or the usual ones if none is given or
its name is empty. -/
def givenOptions (a : Arguments) (files : Files) : Except SettingsError Options :=
  match a.value? optionsFlag with
  | none => .ok {}
  | some [] => .ok {}
  | some path => Options.load files path

/-- The stages of `sub` behind the options: the input; the substitution. -/
def rewriteStages (a : Arguments) (files : Files) (standard : List UInt8) (o : Options) :
    Except Failure Printed := do
  let text ← (a.inputText files standard).mapError .input
  let r ← (substituteText o.all o.flags text (a.valueOf patternFlag)
    (.inl (a.valueOf replacementFlag))).mapError .substitute
  .ok { output := r.text, report := if a.has countFlag then
    ["Replaced ".toList ++ Text.decimal r.count ++ " match(es)".toList] else [] }

/-- The pattern that these stages compile, once there is an input and the template is known. -/
def rewriteCompiled (a : Arguments) (files : Files) (standard : List UInt8) (o : Options) :
    List Compilation :=
  ifOk (a.inputText files standard) fun _ =>
    ifOk (Template.compile (a.valueOf replacementFlag)) fun _ =>
      [⟨.search, a.valueOf patternFlag, o.flags⟩]

/-- The stages of `sub`: the options, with the switches on top; the input; the substitution. -/
def substituteStages (a : Arguments) (files : Files) (standard : List UInt8) :
    Except Failure Printed := do
  let o ← (a.givenOptions files).mapError .settings
  a.rewriteStages files standard (o.override
    { firstOnly := a.has firstFlag, ignoreCase := a.has ignoreCaseFlag
      multiline := a.has multilineFlag, dotAll := a.has dotAllFlag })

/-- The pattern that the stages of `sub` compile. -/
def substituteCompiled (a : Arguments) (files : Files) (standard : List UInt8) :
    List Compilation :=
  ifOk (a.givenOptions files) fun o =>
    a.rewriteCompiled files standard (o.override
      { firstOnly := a.has firstFlag, ignoreCase := a.has ignoreCaseFlag
        multiline := a.has multilineFlag, dotAll := a.has dotAllFlag })

/-- The stages of `apply`: the rules file; the input; the rules in a row. -/
def applyStages (a : Arguments) (files : Files) (standard : List UInt8) :
    Except Failure Printed := do
  let rules ← (Rule.load files (a.valueOf rulesFlag)).mapError .settings
  let text ← (a.inputText files standard).mapError .input
  let r ← (Rule.applyAll text rules).mapError .substitute
  .ok { output := r.text, report := if a.has countFlag then
    ["Applied ".toList ++ Text.decimal rules.length ++ " rule(s), replaced ".toList ++
      Text.decimal r.count ++ " match(es)".toList] else [] }

/-- The patterns that the stages of `apply` compile. -/
def applyCompiled (a : Arguments) (files : Files) (standard : List UInt8) : List Compilation :=
  ifOk (Rule.readEntries files (a.valueOf rulesFlag)) (compiledOnLoad 0) ++
    ifOk (Rule.load files (a.valueOf rulesFlag)) fun rules =>
      ifOk (a.inputText files standard) fun text => compiledOnApply text rules

end Arguments

variable {files : Files} {standard : List UInt8}

/-- The input of a command is read as its arguments say. -/
theorem Work.gives_readInput (a : Arguments) (files : Files) (standard : List UInt8) :
    Work.Gives (Work.readInput files standard a.input)
      ((a.inputText files standard).mapError .input) [] := by
  rw [Arguments.input, Arguments.inputText]
  cases a.operands with
  | nil => exact Work.gives_lift _ _
  | cons path rest =>
    dsimp only
    split
    · exact Work.gives_lift _ _
    · exact Work.gives_lift _ _

/-- The work behind the options gives what the stages behind them give. -/
theorem Work.gives_rewrite (a : Arguments) (files : Files) (standard : List UInt8) (o : Options) :
    Work.Gives (do
      let text ← Work.readInput files standard a.input
      let r ← Work.substitute o text (a.valueOf patternFlag) (a.valueOf replacementFlag)
      return { output := r.text, report := if a.has countFlag then
        ["Replaced ".toList ++ Text.decimal r.count ++ " match(es)".toList] else [] })
      (a.rewriteStages files standard o) (a.rewriteCompiled files standard o) := by
  have h := (Work.gives_readInput a files standard).bind fun text =>
    (Work.gives_substitute o text (a.valueOf patternFlag) (a.valueOf replacementFlag)).bind fun r =>
      Work.gives_pure ({ output := r.text, report := if a.has countFlag then
        ["Replaced ".toList ++ Text.decimal r.count ++ " match(es)".toList] else [] } : Printed)
  simp only [ifOk_nil, ifOk_mapError, List.append_nil, List.nil_append] at h
  exact h

/-- **The work of `sub` gives what its stages give.** -/
theorem Work.gives_substituteStages (a : Arguments) (demos : List DemoCase) (files : Files)
    (standard : List UInt8) :
    Work.Gives (Command.work demos files standard (.substitute (a.valueOf patternFlag)
      (a.valueOf replacementFlag) ((a.value? optionsFlag).filter fun path => !path.isEmpty)
      a.switches (a.has countFlag) a.input)) (a.substituteStages files standard)
      (a.substituteCompiled files standard) := by
  have hrest := Work.gives_rewrite a files standard
  unfold Command.work Arguments.substituteStages Arguments.substituteCompiled
    Arguments.givenOptions
  dsimp only
  cases a.value? optionsFlag with
  | none => exact (Work.gives_pure _).bind fun o => hrest _
  | some path =>
    cases path with
    | nil => exact (Work.gives_pure _).bind fun o => hrest _
    | cons c path => exact Work.Gives.lift_bind fun o => hrest _

/-- **The work of `apply` gives what its stages give.** -/
theorem Work.gives_applyStages (a : Arguments) (demos : List DemoCase) (files : Files)
    (standard : List UInt8) :
    Work.Gives (Command.work demos files standard
      (.apply (a.valueOf rulesFlag) (a.has countFlag) a.input)) (a.applyStages files standard)
      (a.applyCompiled files standard) := by
  have h := (Work.gives_loadRules files (a.valueOf rulesFlag)).bind fun rules =>
    (Work.gives_readInput a files standard).bind fun text =>
      (Work.gives_applyRules text rules).bind fun r =>
        Work.gives_pure ({ output := r.text, report := if a.has countFlag then
          ["Applied ".toList ++ Text.decimal rules.length ++ " rule(s), replaced ".toList ++
            Text.decimal r.count ++ " match(es)".toList] else [] } : Printed)
  simp only [ifOk_nil, ifOk_mapError, List.append_nil, List.nil_append] at h
  exact h

/-! ### What is printed -/

/-- The faults of a scalar that the program does not foresee. -/
inductive UnforeseenScalar : Yaml.ScalarFault → Prop
  | emptyNumeral : UnforeseenScalar .emptyNumeral
  | tooManyPlaces : UnforeseenScalar .tooManyPlaces
  | truthValue (word : Text) : UnforeseenScalar (.truthValue word)
  | notCalendar : UnforeseenScalar .notCalendar
  | collectionAsCalendar : UnforeseenScalar .collectionAsCalendar
  | hugeCodePoint : UnforeseenScalar .hugeCodePoint

/-- **The failures that the program does not foresee**: a repetition count that is too large, in the
pattern of a command or of a rule, a search that breaks off, and some faults of scalars in a
settings file. -/
inductive Unforeseen : Failure → Prop
  | pattern : Unforeseen (.substitute (.pattern .countTooLarge))
  | search (fault : SearchFault) : Unforeseen (.substitute (.search fault))
  | entry (index : Nat) : Unforeseen (.settings (.entry ⟨index, .pattern .countTooLarge⟩))
  | scalar {fault : Yaml.ScalarFault} :
    UnforeseenScalar fault → Unforeseen (.settings (.scalar fault))

theorem reportsScalar_eq_false_iff {fault : Yaml.ScalarFault} :
    reportsScalar fault = false ↔ UnforeseenScalar fault := by
  constructor
  · intro h
    cases fault with
    | integer | decimal | calendar | codePoint => cases h
    | emptyNumeral => exact .emptyNumeral
    | tooManyPlaces => exact .tooManyPlaces
    | truthValue word => exact .truthValue word
    | notCalendar => exact .notCalendar
    | collectionAsCalendar => exact .collectionAsCalendar
    | hugeCodePoint => exact .hugeCodePoint
  · rintro ⟨⟩ <;> rfl

theorem reportsPattern_eq_false_iff {e : PatternError} :
    reportsPattern e = false ↔ e = .countTooLarge := by
  cases e <;> simp [reportsPattern]

/-- Reported are the failures that are foreseen. -/
theorem isReported_eq_false_iff {e : Failure} : e.isReported = false ↔ Unforeseen e := by
  constructor
  · intro h
    unfold Failure.isReported at h
    split at h
    · exact .scalar (reportsScalar_eq_false_iff.mp h)
    · rw [reportsPattern_eq_false_iff.mp h]
      exact .entry _
    · rw [reportsPattern_eq_false_iff.mp h]
      exact .pattern
    · exact .search _
    · cases h
  · rintro (_ | _ | _ | h)
    · rfl
    · rfl
    · rfl
    · exact reportsScalar_eq_false_iff.mpr h

/-- **What a run shows of a result.** What is printed is printed as it is, with nothing but the
report of the command beside it. A failure prints nothing; one that is foreseen is reported by its
message alone, and any other one ends the program abruptly. Warnings come before either. -/
def Outcome.Shows (o : Outcome) (warnings : List Text) : Except Failure Printed → Prop
  | .ok p => o.ending.status? = some 0 ∧ o.output = p.output ∧ o.errorLines = warnings ++ p.report
  | .error e => o.output = [] ∧
    (¬Unforeseen e → o.ending.status? = some 1 ∧
      o.errorLines = warnings ++ ["Error: ".toList ++ e.message]) ∧
    (Unforeseen e → o.ending = .abrupt e ∧ o.errorLines = warnings)

/-- A run that is not verbose shows what its work gives, and the warnings about what is compiled. -/
theorem shows_of_gives {demos : List DemoCase} {c : Command} {x : Except Failure Printed}
    {cs : List Compilation} (hread : Invocation.read args = .ok ⟨false, c⟩)
    (hwork : Work.Gives (c.work demos files standard) x cs)
    (hexpected : ∀ p, x = .ok p → p.asExpected = true) :
    (run demos files standard args).Shows (warningLines files cs) x := by
  have hrun : run demos files standard args = (runCommand demos files standard c).quiet := by
    rw [run, hread]
    rfl
  obtain ⟨events, hrecords, rfl, -⟩ := hwork
  have hresult : (c.work demos files standard).run = (x, events) := hrecords []
  have hlog : ((linesFrom files.origin {} events).filter LogLine.isWarning).map LogLine.text =
      warningLines files (events.filterMap Event.compiled?) := by
    rw [filter_linesFrom]
    rfl
  rw [hrun, runCommand, hresult]
  cases x with
  | ok p =>
    dsimp only
    rw [hexpected p rfl]
    exact ⟨rfl, rfl, congrArg (· ++ p.report) hlog⟩
  | error e =>
    dsimp only
    split
    next hreported =>
      have hforeseen : ¬Unforeseen e := fun h => by
        rw [isReported_eq_false_iff.mpr h] at hreported
        cases hreported
      exact ⟨rfl, fun _ => ⟨rfl, congrArg (· ++ [_]) hlog⟩, fun h => absurd h hforeseen⟩
    next hreported =>
      have hunforeseen : Unforeseen e :=
        isReported_eq_false_iff.mp (Bool.eq_false_iff.mpr hreported)
      exact ⟨rfl, fun h => absurd hunforeseen h,
        fun _ => ⟨rfl, (List.append_nil _).trans hlog⟩⟩

/-- Whatever the stages of `sub` print is as expected. -/
theorem Arguments.asExpected_of_substituteStages {p : Printed}
    (h : a.substituteStages files standard = .ok p) : p.asExpected = true := by
  obtain ⟨o, -, h⟩ := Except.bind_eq_ok_iff.mp h
  obtain ⟨text, -, h⟩ := Except.bind_eq_ok_iff.mp h
  obtain ⟨r, -, h⟩ := Except.bind_eq_ok_iff.mp h
  rw [← Except.ok.inj h]

/-- Whatever the stages of `apply` print is as expected. -/
theorem Arguments.asExpected_of_applyStages {p : Printed}
    (h : a.applyStages files standard = .ok p) : p.asExpected = true := by
  obtain ⟨rules, -, h⟩ := Except.bind_eq_ok_iff.mp h
  obtain ⟨text, -, h⟩ := Except.bind_eq_ok_iff.mp h
  obtain ⟨r, -, h⟩ := Except.bind_eq_ok_iff.mp h
  rw [← Except.ok.inj h]

/-- **The commands `sub` and `apply` are their stages, and a run that fails prints nothing.** Their
arguments cover, next to those of the two other commands, all that the program accepts without the
verbose flag. -/
theorem run_stages (demos : List DemoCase) (files : Files) (standard : List UInt8)
    (args : List Text) :
    (∀ a, Asks args "sub" substituteGrammar a →
      (run demos files standard args).Shows
        (warningLines files (a.substituteCompiled files standard))
        (a.substituteStages files standard)) ∧
    (∀ a, Asks args "apply" applyGrammar a →
      (run demos files standard args).Shows (warningLines files (a.applyCompiled files standard))
        (a.applyStages files standard)) ∧
    ∀ i, Invocation.read args = .ok i → i.verbose = false → ∃ a,
      Asks args "sub" substituteGrammar a ∨ Asks args "apply" applyGrammar a ∨
        Asks args "check" checkGrammar a ∨ Asks args "demo" demoGrammar a := by
  refine ⟨fun a h => ?_, fun a h => ?_, fun i hi hverbose => asks_of_read hi hverbose⟩
  · exact shows_of_gives h.read_substitute (Work.gives_substituteStages a demos files standard)
      fun p hp => Arguments.asExpected_of_substituteStages hp
  · exact shows_of_gives h.read_apply (Work.gives_applyStages a demos files standard)
      fun p hp => Arguments.asExpected_of_applyStages hp

/-- Both letters that match are replaced, and their number is told. Where neither the rules file
nor the input can be opened, the message is about the rules file. -/
theorem run_stages_count_missing :
    let files := Files.ofEntries []
    let args :=
      ["sub", "--pattern", "A", "--replacement", "\\$", "-i", "--count"].map String.toList
    let args' := ["apply", "--rules", "r", "x"].map String.toList
    ((run [] files [97, 98, 97] args).ending.status? = some 0 ∧
      (run [] files [97, 98, 97] args).output = "$b$".toList ∧
      (run [] files [97, 98, 97] args).errorLines = ["Replaced 2 match(es)".toList]) ∧
    (run [] files [] args').ending.status? = some 1 ∧
      (run [] files [] args').output = [] ∧
      (run [] files [] args').errorLines =
        ["Error: [Errno 2] No such file or directory: 'r'".toList] := by
  intro files args args'
  let a : Arguments := {
    flags := [(patternFlag, some ['A']), (replacementFlag, some "\\$".toList),
      (ignoreCaseFlag, none), (countFlag, none)] }
  let b : Arguments := { flags := [(rulesFlag, some ['r'])], operands := [['x']] }
  have hsub : Asks args "sub" substituteGrammar a :=
    ⟨⟨[], args, []⟩, args.tail, rfl, rfl, rfl, rfl, rfl⟩
  have happly : Asks args' "apply" applyGrammar b :=
    ⟨⟨[], args', []⟩, args'.tail, rfl, rfl, rfl, rfl, rfl⟩
  have hshows := (run_stages [] files [97, 98, 97] args).1 a hsub
  have hshows' := (run_stages [] files [] args').2.1 b happly
  have ha : ((a.substituteStages files [97, 98, 97]).toOption.map fun p => (p.output, p.report)) =
      some ("$b$".toList, ["Replaced 2 match(es)".toList]) := by decide +kernel
  have hb : b.applyStages files [] = .error (.settings (.file (.notFound ['r']))) := rfl
  obtain ⟨p, hp, hshown⟩ := Option.map_eq_some_iff.mp ha
  obtain ⟨houtput, hreport⟩ := Prod.mk.inj hshown
  rw [Except.toOption_eq_some_iff.mp hp] at hshows
  rw [hb] at hshows'
  obtain ⟨hstatus, herror⟩ := hshows'.2.1 nofun
  have hquiet : warningLines files (a.substituteCompiled files [97, 98, 97]) = [] :=
    warningLines_eq_nil (by decide +kernel)
  rw [hquiet] at hshows
  exact ⟨⟨hshows.1, hshows.2.1.trans houtput, hshows.2.2.trans hreport⟩, hstatus, hshows'.1,
    herror⟩

/-- **A run in which all goes well may tell something even though nothing is to be counted.** A
bracket in brackets could be meant for a set in a set, and whoever asks for it is told what is done,
be it by the short flag or by the long one. -/
theorem run_doubtful :
    let files : Files := { Files.ofEntries [] with origin := fun _ => ⟨"line".toList, []⟩ }
    let args := ["sub", "--pattern", "[[a]", "--replacement", "z"].map String.toList
    let args' := ["--verbose", "sub", "--pattern", "a", "--replacement", "z"].map String.toList
    let o := run [] files "xay".toUTF8.toList args
    let o' := run [] files "xay".toUTF8.toList args'
    (∃ a, Asks args "sub" substituteGrammar a ∧ a.has countFlag = false) ∧
      o.ending.status? = some 0 ∧ o.output = "xzy".toList ∧
      o.errorLines = ["line: FutureWarning: Possible nested set at position 1".toList] ∧
      "-v".toList ∉ args' ∧ o'.ending.status? = some 0 ∧ o'.output = "xzy".toList ∧
      o'.errorLines = ["safesub.template_engine DEBUG Compiled template 'z' into 1 segment(s)",
        "safesub.substitution DEBUG Replaced 1 match(es) of 'a'"].map String.toList := by
  intro files args args' o o'
  refine ⟨⟨{ flags := [(patternFlag, some "[[a]".toList), (replacementFlag, some ['z'])] },
    ⟨⟨[], args, []⟩, args.tail, rfl, rfl, rfl, rfl, rfl⟩, rfl⟩, ?_⟩
  decide +kernel

end CommandLine

end Substitution
