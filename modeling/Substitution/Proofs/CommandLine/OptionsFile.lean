import Substitution.Proofs.CommandLine.Stages
import Substitution.Proofs.Value.Equality
import Substitution.Proofs.Yaml.Simple.Meaning

/-!
# Runs with a bad options file

An options file that gives no options ends the run before anything else is done or logged. The
faults that are foreseen (`Substitution.CommandLine.ForeseenOptions`) are reported: the file cannot
be read, it breaks the rules of its format, it holds something else than a mapping, its mapping is
no set of options, or one of its numbers or dates cannot be read.

Other faults are not foreseen and end the program abruptly. They are faults of scalars that do not
fit the type that the file itself gives them, that escape a character which is none, or that are
decimals in base sixty with too many places. So a file without exclamation marks and backslashes and
with few colons has no such fault (`Substitution.CommandLine.run_optionsFile`).
-/

namespace Substitution

namespace CommandLine

variable {files : Files} {path : Text} {e : SettingsError}

/-- **The faults of an options file that are foreseen.** -/
inductive ForeseenOptions (path : Text) : SettingsError → Prop
  | file (e : FileError) : ForeseenOptions path (.file e)
  | malformed (explanation : Text) : ForeseenOptions path (.malformed path explanation)
  | scalar {fault : Yaml.ScalarFault} :
    ¬UnforeseenScalar fault → ForeseenOptions path (.scalar fault)
  | notMapping (kind : Text) : ForeseenOptions path (.notMapping kind)
  | options (e : OptionsError) : ForeseenOptions path (.options e)

/-- No unforeseen fault is found in a simple document. -/
theorem UnforeseenScalar.not_simple {fault : Yaml.ScalarFault} (h : UnforeseenScalar fault) :
    ¬fault.Simple := by
  rcases h <;> exact id

/-- **What is wrong with an options file is foreseen**, or it is a scalar in the text of the file
that does not fit its type. -/
theorem foreseen_or_scalar_of_load (h : Options.load files path = .error e) :
    ForeseenOptions path e ∨ ∃ fault text, e = .scalar fault ∧ UnforeseenScalar fault ∧
      files.readPiecewise path = .ok text ∧ Yaml.read 1 text = .error (.scalar fault) := by
  rcases Except.bind_eq_error_iff.mp h with h | ⟨v, -, h⟩
  · rcases Except.bind_eq_error_iff.mp h with h | ⟨text, htext, h⟩
    · obtain ⟨e, -, rfl⟩ := Except.mapError_eq_error_iff.mp h
      exact .inl (.file e)
    · have htext := Except.mapError_eq_ok_iff.mp htext
      split at h
      next => cases h
      next =>
        cases h
        exact .inl (.malformed _)
      next fault hread =>
        cases h
        by_cases hfault : UnforeseenScalar fault
        · exact .inr ⟨fault, text, rfl, hfault, htext, hread⟩
        · exact .inl (.scalar hfault)
  · rw [Options.ofValue.eq_def] at h
    split at h
    next => cases h
    next =>
      obtain ⟨e, -, rfl⟩ := Except.mapError_eq_error_iff.mp h
      exact .inl (.options e)
    next =>
      cases h
      exact .inl (.notMapping _)

theorem ForeseenOptions.not_unforeseen (h : ForeseenOptions path e) :
    ¬Unforeseen (.settings e) := by
  rintro (_ | _ | _ | hfault)
  · cases h
  · cases h with
    | scalar hforeseen => exact hforeseen hfault

/-- **A bad options file ends the run at once**, and whether it is verbose makes no difference. -/
theorem run_of_load_eq_error {demos : List DemoCase} {standard : List UInt8} {args : List Text}
    {verbose count : Bool} {pattern replacement : Text} {switches : Overrides} {input : Input}
    (hread : Invocation.read args =
      .ok ⟨verbose, .substitute pattern replacement (some path) switches count input⟩)
    (hload : Options.load files path = .error e) :
    run demos files standard args =
      if (Failure.settings e).isReported then
        ⟨[], [], ["Error: ".toList ++ e.message], .reported (.settings e)⟩
      else ⟨[], [], [], .abrupt (.settings e)⟩ := by
  have hwork : (Command.work demos files standard
      (.substitute pattern replacement (some path) switches count input)).run =
      (.error (.settings e), []) := by
    rw [Command.work]
    dsimp only
    rw [hload]
    rfl
  rw [run, hread]
  dsimp only
  rw [runCommand, hwork]
  dsimp only
  cases verbose with
  | true => rfl
  | false =>
    rw [if_neg Bool.false_ne_true, apply_ite Outcome.quiet]
    rfl

/-- **A bad options file is reported if its fault is foreseen.** Nothing is printed then; the run
ends with the status of a failure and one line that tells the fault, whatever else it was asked to
do. Any other fault is one of a scalar and ends the program abruptly; the file has an exclamation
mark then, a backslash, or as many colons as a number with too many places. -/
theorem run_optionsFile (h : Options.load files path = .error e) :
    (ForeseenOptions path e ∨ ∃ fault text, e = .scalar fault ∧ UnforeseenScalar fault ∧
      files.readPiecewise path = .ok text ∧
      ('!' ∈ text ∨ '\\' ∈ text ∨ Yaml.maxPlaces ≤ text.count ':')) ∧
    ∀ (demos : List DemoCase) (standard : List UInt8) (args : List Text) (verbose count : Bool)
      (pattern replacement : Text) (switches : Overrides) (input : Input),
      Invocation.read args =
        .ok ⟨verbose, .substitute pattern replacement (some path) switches count input⟩ →
      let o := run demos files standard args
      o.output = [] ∧
      (ForeseenOptions path e → o.ending.status? = some 1 ∧
        o.errorLines = ["Error: ".toList ++ e.message]) ∧
      (¬ForeseenOptions path e → o.ending = .abrupt (.settings e) ∧ o.errorLines = []) := by
  have hcases := foreseen_or_scalar_of_load h
  constructor
  · rcases hcases with hforeseen | ⟨fault, text, rfl, hfault, htext, hread⟩
    · exact .inl hforeseen
    · refine .inr ⟨fault, text, rfl, hfault, htext, ?_⟩
      by_contra! hneither
      obtain ⟨htag, hescape, hcolons⟩ := hneither
      have hsimple : Yaml.Simple text :=
        ⟨fun c hc => ⟨fun heq => htag (heq ▸ hc), fun heq => hescape (heq ▸ hc)⟩, hcolons⟩
      exact hfault.not_simple (Yaml.simple_of_read_eq_error hread hsimple)
  · intro demos standard args verbose count pattern replacement switches input hread
    dsimp only
    rw [run_of_load_eq_error hread h]
    split
    next hreported =>
      refine ⟨rfl, fun _ => ⟨rfl, rfl⟩, fun hnot => ?_⟩
      rcases hcases with hforeseen | ⟨fault, -, rfl, hfault, -⟩
      · exact absurd hforeseen hnot
      · rw [isReported_eq_false_iff.mpr (.scalar hfault)] at hreported
        cases hreported
    next hreported =>
      refine ⟨rfl, fun hforeseen => ?_, fun _ => ⟨rfl, rfl⟩⟩
      exact absurd (isReported_eq_false_iff.mp (Bool.eq_false_iff.mpr hreported))
        hforeseen.not_unforeseen

/-- A number is no value of an option, and the run that is to use it reports this. -/
theorem run_optionsFile_number :
    let files := Files.ofEntries [("o".toList, .bytes "global: 1\n".toUTF8.toList)]
    let args := ["-v", "sub", "--pattern", "a", "--replacement", "b", "--options", "o"].map
      String.toList
    (run [] files [97] args).output = [] ∧ (run [] files [97] args).ending.status? = some 1 ∧
      (run [] files [97] args).errorLines =
        ["Error: 'options.global' must be true or false, got 1".toList] := by
  intro files args
  have hload : Options.load files "o".toList =
      .error (.options (.notBoolean "options".toList "global".toList (.int 1))) := by decide +kernel
  have hread : Invocation.read args =
      .ok ⟨true, .substitute ['a'] ['b'] (some "o".toList) {} false .standard⟩ := by rfl
  obtain ⟨houtput, hreported, -⟩ := (run_optionsFile hload).2 [] [97] args _ _ _ _ _ _ hread
  obtain ⟨hstatus, hlines⟩ := hreported (.options _)
  exact ⟨houtput, hstatus, hlines⟩

/-- A word that is said to be a truth value and is none ends the program abruptly. -/
theorem run_optionsFile_truthValue :
    let files := Files.ofEntries [("o".toList, .bytes "global: !!bool maybe\n".toUTF8.toList)]
    let args := ["sub", "--pattern", "a", "--replacement", "b", "--options", "o"].map
      String.toList
    Invocation.read args =
        .ok ⟨false, .substitute ['a'] ['b'] (some "o".toList) {} false .standard⟩ ∧
      Options.load files "o".toList = .error (.scalar (.truthValue "maybe".toList)) ∧
      (run [] files [97] args).ending.status? = none ∧
      (run [] files [97] args).errorLines = [] := by
  intro files args
  have hread : Invocation.read args =
      .ok ⟨false, .substitute ['a'] ['b'] (some "o".toList) {} false .standard⟩ := by rfl
  have hload : Options.load files "o".toList =
      .error (.scalar (.truthValue "maybe".toList)) := by decide +kernel
  have hrun : run [] files [97] args =
      ⟨[], [], [], .abrupt (.settings (.scalar (.truthValue "maybe".toList)))⟩ :=
    run_of_load_eq_error hread hload
  exact ⟨hread, hload, by rw [hrun]; rfl, by rw [hrun]; rfl⟩

end CommandLine

end Substitution
