import Mathlib.Data.List.Basic
import Substitution.Proofs.Overrides

/-!
# Values that are attached to their flags

A value of a flag can be written behind an equal sign in the same argument, and then it may be any
text at all: it may be empty, begin with a dash, be a double dash, or hold blanks and further equal
signs. What an argument is depends only on what stands in front of its first equal sign
(`Substitution.CommandLine.Grammar.role_attached`), as no flag has an equal sign in its name.

Arguments are looked at twice. The program itself knows nothing of the flags of its commands, and to
it such an argument is one that it cannot tell; but it does not have to, since all that stands
behind the name of a command is left to the command, provided that no argument there could mean
several flags of the program (`Substitution.CommandLine.read_main`). So a pattern and a replacement
reach the command `sub` as they were written: `Substitution.CommandLine.run_attached`.
-/

namespace Substitution

namespace CommandLine

namespace Grammar

variable {g : Grammar} {f : Flag} {name : Text}

/-! ### What an argument with an equal sign is -/

theorem takeWhile_attached (hname : '=' ∉ name) (value : Text) :
    (name ++ '=' :: value).takeWhile (· != '=') = name := by
  have hall : ∀ c ∈ name, (c != '=') = true := fun c hc =>
    bne_iff_ne.mpr fun heq => hname (heq ▸ hc)
  rw [List.takeWhile_append_of_pos hall, List.takeWhile_cons_of_neg (by decide), List.append_nil]

/-- The value is what stands behind the first equal sign. -/
theorem tail?_drop_attached (name value : Text) :
    ((name ++ '=' :: value).drop name.length).tail? = some value := by
  rw [List.drop_left]
  rfl

/-- With an equal sign an argument is no name of a flag. -/
theorem find?_attached (hplain : ∀ n ∈ g.named, '=' ∉ n.1) (name value : Text) :
    g.find? (name ++ '=' :: value) = none := by
  rw [find?, List.lookup_eq_none_iff]
  intro n hn
  refine bne_iff_ne.mpr fun heq => hplain n hn ?_
  rw [← heq]
  exact List.mem_append_right name List.mem_cons_self

/-- **A flag with its value behind an equal sign is read as this flag with this value.** -/
theorem role_attached (hplain : ∀ n ∈ g.named, '=' ∉ n.1) (hdash : name.head? = some '-')
    (hname : '=' ∉ name) (hf : g.find? name = some f) (value : Text) :
    g.role (name ++ '=' :: value) = .ok (.flag f name (some ⟨true, value⟩)) := by
  have hhead : (name ++ '=' :: value).head? = some '-' := by
    rw [List.head?_append, hdash]
    rfl
  rw [role, if_neg (not_not.mpr hhead), find?_attached hplain]
  dsimp only
  rw [takeWhile_attached hname, tail?_drop_attached, hf]

/-- **A long flag of which a program knows no beginning is no fault yet.** -/
theorem exists_role_attached (hplain : ∀ n ∈ g.named, '=' ∉ n.1)
    (hdashes : "--".toList <+: name) (hname : '=' ∉ name)
    (hunknown : ∀ n ∈ g.named, ¬name <+: n.1) (value : Text) :
    ∃ role, g.role (name ++ '=' :: value) = .ok role := by
  have hprefix : "--".toList.isPrefixOf (name ++ '=' :: value) = true :=
    List.isPrefixOf_iff_prefix.mpr (hdashes.trans (List.prefix_append _ _))
  have hfind : g.find? name = none := by
    rw [find?, List.lookup_eq_none_iff]
    exact fun n hn => bne_iff_ne.mpr fun heq => hunknown n hn (heq ▸ List.prefix_rfl)
  have hcandidates : g.candidates (name ++ '=' :: value) name (some value) = [] := by
    rw [candidates, if_pos hprefix, List.filter_eq_nil_iff.mpr, List.map_nil]
    exact fun n hn h => hunknown n hn (List.isPrefixOf_iff_prefix.mp h)
  rw [role]
  split
  next => exact ⟨_, rfl⟩
  next =>
    rw [find?_attached hplain]
    dsimp only
    rw [takeWhile_attached hname, tail?_drop_attached, hfind, hcandidates]
    dsimp only
    split
    · exact ⟨_, rfl⟩
    · exact ⟨_, rfl⟩

/-! ### Arguments in a row -/

theorem roles_nil : g.roles [] = .ok [] :=
  rfl

/-- An argument that is no double dash has a role of its own. -/
theorem roles_cons_eq {arg : Text} {role : Role} (hne : arg ≠ "--".toList)
    (hrole : g.role arg = .ok role) (rest : List Text) :
    g.roles (arg :: rest) = (g.roles rest).map fun others => (arg, role) :: others := by
  rw [Grammar.roles, if_neg hne, hrole]
  cases g.roles rest with
  | error e => rfl
  | ok others => rfl

theorem roles_cons {arg : Text} {rest : List Text} {role : Role} {roles : List (Text × Role)}
    (hne : arg ≠ "--".toList) (hrole : g.role arg = .ok role) (hroles : g.roles rest = .ok roles) :
    g.roles (arg :: rest) = .ok ((arg, role) :: roles) := by
  rw [roles_cons_eq hne hrole, hroles]
  rfl

/-- Each argument has a role. -/
theorem map_fst_roles {args : List Text} {roles : List (Text × Role)}
    (h : g.roles args = .ok roles) : roles.map Prod.fst = args := by
  induction args generalizing roles with
  | nil =>
    cases h
    rfl
  | cons arg rest ih =>
    rw [Grammar.roles] at h
    split at h
    · obtain rfl := Except.ok.inj h
      rw [List.map_cons, List.map_map]
      exact congrArg (arg :: ·) (List.map_id rest)
    · obtain ⟨role, -, h⟩ := Except.bind_eq_ok_iff.mp h
      obtain ⟨others, hothers, h⟩ := Except.bind_eq_ok_iff.mp h
      obtain rfl := Except.ok.inj h
      rw [List.map_cons, ih hothers]

/-- An argument with an equal sign is no double dash. -/
theorem attached_ne_divider (name value : Text) : name ++ '=' :: value ≠ "--".toList := by
  have hdivider : '=' ∉ "--".toList := by decide
  exact fun heq => hdivider (heq ▸ List.mem_append_right name List.mem_cons_self)

/-- A flag with its value in the same argument takes nothing from the arguments behind it. -/
theorem readRoles_attached (hvalue : f.takesValue = true) (hhelp : f ≠ Flag.help) (arg name : Text)
    (attached : Attached) (roles : List (Text × Role)) :
    g.readRoles .vacant none ((arg, .flag f name (some attached)) :: roles) =
      (g.readRoles .vacant none roles).map fun a =>
        { a with flags := (f, some attached.text) :: a.flags } := by
  have hcluster : g.cluster f name attached.byEquals attached.text =
      .ok ⟨[(f, some attached.text)], none, none⟩ := by
    rw [cluster.eq_def, if_pos hvalue]
  have hany : ([(f, some attached.text)].any fun given => given.1 = Flag.help) = false := by
    simp [hhelp]
  rw [readRoles]
  dsimp only
  rw [hcluster]
  dsimp only
  rw [withFlags, hany]
  rfl

end Grammar

/-! ### The program and its command -/

/-- **What stands behind the name of a command is left to the command.** -/
theorem read_main {name : Text} {rest : List Text} {roles : List (Text × Role)}
    (hname : name.head? ≠ some '-') (hroles : mainGrammar.roles rest = .ok roles) :
    mainGrammar.read (name :: rest) = .ok ⟨[], name :: rest, []⟩ := by
  have hne : name ≠ "--".toList := fun heq => hname (heq ▸ rfl)
  have hoperand : mainGrammar.role name = .ok .operand := by rw [Grammar.role, if_pos hname]
  have hread : mainGrammar.readRoles .vacant none ((name, .operand) :: roles) =
      .ok ⟨[], name :: rest, []⟩ := by
    rw [← Grammar.map_fst_roles hroles]
    rfl
  have hroles' := congrArg (Except.mapError (Stop.misuse mainGrammar.program))
    (Grammar.roles_cons hne hoperand hroles)
  rw [Grammar.read, hroles']
  exact Except.bind_eq_ok_iff.mpr ⟨_, rfl, Except.bind_eq_ok_iff.mpr ⟨_, hread, rfl⟩⟩

/-- The arguments that give a pattern and a replacement, each behind an equal sign. -/
def attachedArguments (pattern replacement : Text) : List Text :=
  ["sub".toList, "--pattern=".toList ++ pattern, "--replacement=".toList ++ replacement]

/-- The arguments as they are meant: two flags with their values, and nothing else. -/
def meantArguments (pattern replacement : Text) : Arguments where
  flags := [(patternFlag, some pattern), (replacementFlag, some replacement)]

theorem read_attached (pattern replacement : Text) :
    substituteGrammar.read (attachedArguments pattern replacement).tail =
      .ok (meantArguments pattern replacement) := by
  have hplain : ∀ n ∈ substituteGrammar.named, '=' ∉ n.1 := by decide
  have hpattern : substituteGrammar.role (patternFlag.longName ++ '=' :: pattern) =
      .ok (.flag patternFlag patternFlag.longName (some ⟨true, pattern⟩)) :=
    Grammar.role_attached hplain rfl (by decide) (by decide) pattern
  have hreplacement : substituteGrammar.role (replacementFlag.longName ++ '=' :: replacement) =
      .ok (.flag replacementFlag replacementFlag.longName (some ⟨true, replacement⟩)) :=
    Grammar.role_attached hplain rfl (by decide) (by decide) replacement
  have hroles := Grammar.roles_cons (Grammar.attached_ne_divider _ _) hpattern
    (Grammar.roles_cons (Grammar.attached_ne_divider _ _) hreplacement Grammar.roles_nil)
  have hread := Grammar.readRoles_attached (g := substituteGrammar) (f := patternFlag) rfl
    (by decide) (patternFlag.longName ++ '=' :: pattern) patternFlag.longName ⟨true, pattern⟩
    [(replacementFlag.longName ++ '=' :: replacement,
      .flag replacementFlag replacementFlag.longName (some ⟨true, replacement⟩))]
  rw [Grammar.readRoles_attached (g := substituteGrammar) (f := replacementFlag) rfl
    (by decide)] at hread
  have hroles' := congrArg (Except.mapError (Stop.misuse substituteGrammar.program)) hroles
  refine Except.bind_eq_ok_iff.mpr ⟨_, hroles', ?_⟩
  exact Except.bind_eq_ok_iff.mpr ⟨_, hread, rfl⟩

/-- **The program accepts the arguments**, whatever the values are. -/
theorem asks_attached (pattern replacement : Text) :
    Asks (attachedArguments pattern replacement) "sub" substituteGrammar
      (meantArguments pattern replacement) := by
  have hplain : ∀ n ∈ mainGrammar.named, '=' ∉ n.1 := by decide
  obtain ⟨role, hrole⟩ : ∃ role, mainGrammar.role (patternFlag.longName ++ '=' :: pattern) =
      .ok role :=
    Grammar.exists_role_attached hplain (List.prefix_append _ _) (by decide) (by decide) pattern
  obtain ⟨role', hrole'⟩ : ∃ role,
      mainGrammar.role (replacementFlag.longName ++ '=' :: replacement) = .ok role :=
    Grammar.exists_role_attached hplain (List.prefix_append _ _) (by decide) (by decide)
      replacement
  have hroles := Grammar.roles_cons (Grammar.attached_ne_divider _ _) hrole
    (Grammar.roles_cons (Grammar.attached_ne_divider _ _) hrole' Grammar.roles_nil)
  have hmain : mainGrammar.read (attachedArguments pattern replacement) =
      .ok ⟨[], attachedArguments pattern replacement, []⟩ := read_main (by decide) hroles
  exact ⟨_, _, hmain, rfl, rfl, read_attached pattern replacement, rfl⟩

section Meant

variable (pattern replacement : Text)

theorem valueOf_pattern : (meantArguments pattern replacement).valueOf patternFlag = pattern :=
  rfl

theorem valueOf_replacement :
    (meantArguments pattern replacement).valueOf replacementFlag = replacement :=
  rfl

theorem value?_options : (meantArguments pattern replacement).value? optionsFlag = none :=
  rfl

theorem has_count : (meantArguments pattern replacement).has countFlag = false :=
  rfl

theorem switches_meant : (meantArguments pattern replacement).switches = {} :=
  rfl

/-- What the command is asked to do. -/
theorem read_invocation : Invocation.read (attachedArguments pattern replacement) =
    .ok ⟨false, .substitute pattern replacement none {} false .standard⟩ := by
  have hread := (asks_attached pattern replacement).read_substitute
  rw [valueOf_pattern, valueOf_replacement, value?_options, has_count, switches_meant] at hread
  exact hread

/-- The stages of the command behind the options: the standard input, and the substitution. -/
def attachedStages (standard : List UInt8) (o : Options) : Except Failure Printed := do
  let text ← (textOfBytes standard).mapError .input
  let r ← (substituteText o.all o.flags text pattern (.inl replacement)).mapError .substitute
  .ok { output := r.text }

/-- The pattern, which the command compiles once there is a text and the template is known. -/
def attachedCompiled (standard : List UInt8) (o : Options) : List Compilation :=
  ifOk (textOfBytes standard) fun _ =>
    ifOk (Template.compile replacement) fun _ => [⟨.search, pattern, o.flags⟩]

theorem shows_attached (demos : List DemoCase) (files : Files) (standard : List UInt8) :
    (run demos files standard (attachedArguments pattern replacement)).Shows
      (warningLines files (attachedCompiled pattern replacement standard {}))
      (attachedStages pattern replacement standard {}) := by
  have hgiven : (meantArguments pattern replacement).givenOptions files = .ok {} := by
    rw [Arguments.givenOptions, value?_options]
  have hinput : (meantArguments pattern replacement).inputText files standard =
      textOfBytes standard := rfl
  have hshows := (asks_attached pattern replacement).shows_rewrite demos standard hgiven
  rw [switches_meant, Arguments.rewriteStages, Arguments.rewriteCompiled, valueOf_pattern,
    valueOf_replacement, has_count, hinput] at hshows
  exact hshows

end Meant

/-- **A pattern and a replacement reach the command as they are written.** Whatever texts are given
behind the equal signs, the run is the substitution in the text of the standard input under the
usual options: it prints what the substitution gives, or reports its failure, behind the warnings
about the pattern. The failures that end the program abruptly are a repetition count that is too
large and a search that breaks off. An input that is no text is reported before anything is read of
the pattern and the replacement. -/
theorem run_attached (demos : List DemoCase) (files : Files) (standard : List UInt8)
    (pattern replacement : Text) :
    let args := ["sub".toList, "--pattern=".toList ++ pattern,
      "--replacement=".toList ++ replacement]
    let o := run demos files standard args
    let usual : Options := {}
    let warnings := warningLines files
      (ifOk (Template.compile replacement) fun _ => [⟨.search, pattern, usual.flags⟩])
    Invocation.read args =
      .ok ⟨false, .substitute pattern replacement none {} false .standard⟩ ∧
    (∀ text, textOfBytes standard = .ok text →
      (∀ r, substituteText usual.all usual.flags text pattern (.inl replacement) = .ok r →
        o.ending.status? = some 0 ∧ o.output = r.text ∧ o.errorLines = warnings) ∧
      ∀ e, substituteText usual.all usual.flags text pattern (.inl replacement) = .error e →
        o.output = [] ∧
        (e ≠ .pattern .countTooLarge → (∀ fault, e ≠ .search fault) →
          o.ending.status? = some 1 ∧
            o.errorLines = warnings ++ ["Error: ".toList ++ e.message]) ∧
        (e = .pattern .countTooLarge ∨ (∃ fault, e = .search fault) →
          o.ending = .abrupt (.substitute e) ∧ o.errorLines = warnings)) ∧
    ∀ e, textOfBytes standard = .error e →
      o.output = [] ∧ o.ending.status? = some 1 ∧
        o.errorLines = ["Error: ".toList ++ e.message] := by
  intro args o usual warnings
  have hshows : o.Shows (warningLines files (attachedCompiled pattern replacement standard usual))
      (attachedStages pattern replacement standard usual) :=
    shows_attached pattern replacement demos files standard
  have hwarnings {text : Text} (htext : textOfBytes standard = .ok text) :
      warningLines files (attachedCompiled pattern replacement standard usual) = warnings := by
    rw [attachedCompiled, htext]
    rfl
  refine ⟨read_invocation pattern replacement, fun text htext => ⟨fun r hr => ?_, fun e he => ?_⟩,
    fun e he => ?_⟩
  · have hstages : attachedStages pattern replacement standard usual = .ok { output := r.text } :=
      Except.bind_eq_ok_iff.mpr ⟨text, Except.mapError_eq_ok_iff.mpr htext,
        Except.bind_eq_ok_iff.mpr ⟨r, Except.mapError_eq_ok_iff.mpr hr, rfl⟩⟩
    rw [hstages, hwarnings htext] at hshows
    obtain ⟨hstatus, houtput, hlines⟩ := hshows
    exact ⟨hstatus, houtput, hlines.trans (List.append_nil _)⟩
  · have hstages : attachedStages pattern replacement standard usual = .error (.substitute e) :=
      Except.bind_eq_error_iff.mpr (.inr ⟨text, Except.mapError_eq_ok_iff.mpr htext,
        Except.bind_eq_error_iff.mpr (.inl (Except.mapError_eq_error_iff.mpr ⟨e, he, rfl⟩))⟩)
    rw [hstages, hwarnings htext] at hshows
    obtain ⟨houtput, hforeseen, hunforeseen⟩ := hshows
    refine ⟨houtput, fun hcount hsearch => hforeseen fun h => ?_, ?_⟩
    · cases h with
      | pattern => exact hcount rfl
      | search fault => exact hsearch fault rfl
    · rintro (rfl | ⟨fault, rfl⟩)
      · exact hunforeseen .pattern
      · exact hunforeseen (.search fault)
  · have hstages : attachedStages pattern replacement standard usual = .error (.input e) :=
      Except.bind_eq_error_iff.mpr (.inl (Except.mapError_eq_error_iff.mpr ⟨e, he, rfl⟩))
    have hnothing : attachedCompiled pattern replacement standard usual = [] := by
      rw [attachedCompiled, he]
      rfl
    rw [hstages, hnothing] at hshows
    obtain ⟨houtput, hforeseen, -⟩ := hshows
    obtain ⟨hstatus, hlines⟩ := hforeseen nofun
    exact ⟨houtput, hstatus, hlines⟩

/-- A pattern that is a double dash, and a replacement that begins with a blank and holds a dash and
an equal sign; and a pattern with a parenthesis that is not closed, and an empty replacement. -/
theorem run_attached_dashes :
    let args (pattern replacement : Text) := ["sub".toList, "--pattern=".toList ++ pattern,
      "--replacement=".toList ++ replacement]
    let standard := "a--b".toUTF8.toList
    let o := run [] (.ofEntries []) standard (args "--".toList " -=\\$".toList)
    let o' := run [] (.ofEntries []) standard (args "-(".toList [])
    (o.ending.status? = some 0 ∧ o.output = "a -=$b".toList ∧ o.errorLines = []) ∧
      o'.output = [] ∧ o'.ending.status? = some 1 ∧
      o'.errorLines = ["Error: missing ), unterminated subpattern at position 1".toList] := by
  intro args standard o o'
  have htext : textOfBytes standard = .ok "a--b".toList := by decide +kernel
  have hr : substituteText true 0 "a--b".toList "--".toList (.inl " -=\\$".toList) =
      .ok ⟨"a -=$b".toList, 1⟩ := by decide +kernel
  have he : substituteText true 0 "a--b".toList "-(".toList (.inl []) =
      .error (.pattern (.malformed "-(".toList 1 .unterminatedGroup)) := by decide +kernel
  have hmessage : "Error: ".toList ++
      (SubstituteError.pattern (.malformed "-(".toList 1 .unterminatedGroup)).message =
      "Error: missing ), unterminated subpattern at position 1".toList := by decide +kernel
  obtain ⟨-, hgiven, -⟩ := run_attached [] (.ofEntries []) standard "--".toList " -=\\$".toList
  obtain ⟨-, hgiven', -⟩ := run_attached [] (.ofEntries []) standard "-(".toList []
  obtain ⟨houtput', hreported, -⟩ := (hgiven' _ htext).2 _ he
  obtain ⟨hstatus', hlines'⟩ := hreported nofun nofun
  rw [hmessage] at hlines'
  exact ⟨(hgiven _ htext).1 _ hr, houtput', hstatus', hlines'⟩

end CommandLine

end Substitution
