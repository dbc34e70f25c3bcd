import Substitution.Proofs.CommandLine.Stages
import Substitution.Proofs.Session
import Substitution.Proofs.Value.Equality

/-!
# Switches in layers

Switches are layered on top of options one after another: those of a settings file come first, those
of the command line on top. A switch can turn something on and never off, so what the layers amount
to is simple: **one layer in which each switch is on if it is on in some layer**
(`Substitution.Options.foldl_override`). Switches are ordered by what they turn on, and this one
layer is the join of the others. So it says nothing of the order of the layers, of how often one of
them comes, or of how they are taken together.

The flags of options are a set with one bit for each, and there may be more in it than a switch can
turn on. What a switch turns on is therefore said bit by bit
(`Substitution.Overrides.testBit_flags`), and the bits that no switch has are carried along as they
are.

Options are a value, and a layer makes new ones. In a session this can be seen on the rules, which
keep the options under which they were appended (`Substitution.Session.after_overrides`).
-/

namespace Substitution

namespace Overrides

/-! ### The bits of switches -/

theorem testBit_given (b : Bool) (n bit : Nat) :
    (if b then 2 ^ n else 0).testBit bit = (b && decide (bit = n)) := by
  cases b with
  | false => simp
  | true => simp [Nat.testBit_two_pow, eq_comm]

/-- **The bits that switches turn on**, each by a switch of its own. -/
theorem testBit_flags (s : Overrides) (bit : Nat) :
    s.flags.testBit bit = (s.ignoreCase && decide (bit = 1) || s.multiline && decide (bit = 3) ||
      s.dotAll && decide (bit = 4)) := by
  have hflags : s.flags = (if s.ignoreCase then 2 ^ 1 else 0) |||
      (if s.multiline then 2 ^ 3 else 0) ||| (if s.dotAll then 2 ^ 4 else 0) := rfl
  rw [hflags, Nat.testBit_or, Nat.testBit_or, testBit_given, testBit_given, testBit_given]

/-! ### Joins -/

/-- The switches that are on in the one or in the other. -/
def join (a b : Overrides) : Overrides :=
  ⟨a.firstOnly || b.firstOnly, a.ignoreCase || b.ignoreCase, a.multiline || b.multiline,
    a.dotAll || b.dotAll⟩

/-- **The switches that are on in some layer.** -/
def joinAll (layers : List Overrides) : Overrides :=
  ⟨layers.any firstOnly, layers.any ignoreCase, layers.any multiline, layers.any dotAll⟩

theorem firstOnly_join (a b : Overrides) :
    (a.join b).firstOnly = (a.firstOnly || b.firstOnly) :=
  rfl

theorem flags_join (a b : Overrides) : (a.join b).flags = a.flags ||| b.flags := by
  refine Nat.eq_of_testBit_eq fun bit => ?_
  rw [Nat.testBit_or, testBit_flags, testBit_flags, testBit_flags, join]
  simp only [Bool.and_or_distrib_right]
  ac_rfl

theorem joinAll_cons (first : Overrides) (rest : List Overrides) :
    joinAll (first :: rest) = first.join (joinAll rest) :=
  rfl

/-- Only which layers there are matters, not in which order or how often. -/
theorem joinAll_congr {layers others : List Overrides} (h : ∀ s, s ∈ layers ↔ s ∈ others) :
    joinAll layers = joinAll others := by
  have hany (switch : Overrides → Bool) : layers.any switch = others.any switch := by
    rw [Bool.eq_iff_iff, List.any_eq_true, List.any_eq_true]
    exact exists_congr fun s => and_congr_left' (h s)
  rw [joinAll, joinAll, hany, hany, hany, hany]

/-- Layers may be taken together in groups. -/
theorem joinAll_flatten (groups : List (List Overrides)) :
    joinAll groups.flatten = joinAll (groups.map joinAll) := by
  simp only [joinAll, List.any_flatten, List.any_map, Function.comp_def]

end Overrides

namespace Options

open Overrides

/-! ### One layer after another -/

/-- **Two layers are one with the switches of both.** -/
theorem override_override (o : Options) (a b : Overrides) :
    (o.override a).override b = o.override (a.join b) := by
  rw [override, override, override, flags_join, firstOnly_join, Nat.or_assoc, Bool.not_or,
    Bool.and_assoc]

/-- **Layers one after another are one with the switches of all of them.** -/
theorem foldl_override (o : Options) (layers : List Overrides) :
    layers.foldl override o = o.override (joinAll layers) := by
  induction layers generalizing o with
  | nil =>
    change o = ⟨o.all && true, o.flags ||| 0⟩
    rw [Bool.and_true, Nat.or_zero]
  | cons first rest ih => rw [List.foldl_cons, ih, override_override, joinAll_cons]

/-- **What a layer leaves as it was**: it turns no flag off, and it turns on no flag that no switch
has. It never turns from the first match to all of them. -/
structure Extends (o after : Options) : Prop where
  kept : ∀ bit, o.flags.testBit bit = true → after.flags.testBit bit = true
  first : o.all = false → after.all = false
  others : ∀ bit, bit ≠ 1 → bit ≠ 3 → bit ≠ 4 → after.flags.testBit bit = o.flags.testBit bit

theorem extends_override (o : Options) (switches : Overrides) :
    o.Extends (o.override switches) := by
  refine ⟨fun bit h => ?_, fun h => ?_, fun bit h1 h3 h4 => ?_⟩
  · rw [override, Nat.testBit_or, h, Bool.true_or]
  · rw [override, h, Bool.false_and]
  · have hoff : switches.flags.testBit bit = false := by
      rw [testBit_flags, decide_eq_false h1, decide_eq_false h3, decide_eq_false h4]
      simp
    rw [override, Nat.testBit_or, hoff, Bool.or_false]

end Options

/-! ### Layers in a session and in a run -/

/-- **Switches change the options of a session and nothing else.** The rules keep the options that
they hold, even if these were the options of the session before. -/
theorem Session.after_overrides (s : Session) (layers : List Overrides) :
    s.after (layers.map .override) =
      { s with options := layers.foldl Options.override s.options } := by
  induction layers generalizing s with
  | nil => rfl
  | cons first rest ih => exact ih { s with options := s.options.override first }

namespace CommandLine

variable {args : List Text} {a : Arguments} {files : Files}

/-- The options file that is named holds a mapping: the options are what it gives. -/
theorem Arguments.givenOptions_of_map {path : Text} {entries : List (Value × Value)}
    (hpath : a.value? optionsFlag = some path) (hne : path ≠ [])
    (hread : readSettings 1 files path = .ok (.map entries)) :
    a.givenOptions files = (Options.ofMapping "options".toList entries).mapError .options := by
  obtain ⟨c, rest, rfl⟩ := List.exists_cons_of_ne_nil hne
  rw [givenOptions, hpath]
  change (readSettings 1 files (c :: rest)).bind Options.ofValue = _
  rw [hread]
  rfl

/-- **The switches of the command line lie on top of the options that are given.** -/
theorem Asks.shows_rewrite (h : Asks args "sub" substituteGrammar a) (demos : List DemoCase)
    (standard : List UInt8) {given : Options} (hgiven : a.givenOptions files = .ok given) :
    (run demos files standard args).Shows
      (warningLines files (a.rewriteCompiled files standard (given.override a.switches)))
      (a.rewriteStages files standard (given.override a.switches)) := by
  have hstages : a.substituteStages files standard =
      a.rewriteStages files standard (given.override a.switches) := by
    rw [Arguments.substituteStages, hgiven]
    rfl
  have hcompiled : a.substituteCompiled files standard =
      a.rewriteCompiled files standard (given.override a.switches) := by
    rw [Arguments.substituteCompiled, hgiven]
    rfl
  rw [← hstages, ← hcompiled]
  exact shows_of_gives h.read_substitute (Work.gives_substituteStages a demos files standard)
    fun p hp => Arguments.asExpected_of_substituteStages hp

end CommandLine

namespace Options

open CommandLine

/-- **Layers of switches are one layer: their join.** So the order of the layers makes no
difference, nor how often one of them comes, nor whether some of them have been taken together
before. Each layer keeps every flag that is there and touches no flag that a switch does not have;
it goes from all matches to the first one, and never back. In a session nothing but the options is
changed by it.

What a command works with are the options of its settings file with the switches of the command line
on top: all matches are replaced if the file says so and the command line does not ask for the first
one only, and the flags are those of either. -/
theorem override_layers (o : Options) (layers : List Overrides) :
    layers.foldl override o = o.override (Overrides.joinAll layers) ∧
    (∀ others : List Overrides, (∀ s, s ∈ layers ↔ s ∈ others) →
      others.foldl override o = layers.foldl override o) ∧
    (∀ groups : List (List Overrides), groups.flatten = layers →
      (groups.map Overrides.joinAll).foldl override o = layers.foldl override o) ∧
    (∀ before s rest, layers = before ++ s :: rest →
      (before.foldl override o).Extends ((before ++ [s]).foldl override o)) ∧
    (∀ session : Session, session.options = o →
      session.after (layers.map .override) = { session with options := layers.foldl override o }) ∧
    ∀ demos files standard args a, Asks args "sub" substituteGrammar a →
      (∀ path entries, a.value? optionsFlag = some path → path ≠ [] →
        readSettings 1 files path = .ok (.map entries) →
        a.givenOptions files = (ofMapping "options".toList entries).mapError .options) ∧
      ∀ given, a.givenOptions files = .ok given →
        let used : Options := ⟨given.all && !a.has firstFlag, given.flags |||
          ((if a.has ignoreCaseFlag then Flags.ignoreCase else 0) |||
            (if a.has multilineFlag then Flags.multiline else 0) |||
            (if a.has dotAllFlag then Flags.dotAll else 0))⟩
        (run demos files standard args).Shows
          (warningLines files (a.rewriteCompiled files standard used))
          (a.rewriteStages files standard used) := by
  refine ⟨foldl_override o layers, fun others h => ?_, fun groups hgroups => ?_,
    fun before s rest _ => ?_, fun session hsession => ?_, fun demos files standard args a h =>
    ⟨fun path entries hpath hne hread => Arguments.givenOptions_of_map hpath hne hread,
      fun given hgiven => h.shows_rewrite demos standard hgiven⟩⟩
  · rw [foldl_override, foldl_override, Overrides.joinAll_congr h]
  · rw [foldl_override, foldl_override, ← Overrides.joinAll_flatten, hgroups]
  · rw [List.foldl_append]
    exact extends_override _ s
  · rw [Session.after_overrides, hsession]

/-- The file ignores letter case and the command line lets the dot match line feeds; only both
together match at the start of the text, and only there is it rewritten. The flag that no switch has
is still there after three layers, of which two are the same. -/
theorem override_layers_file :
    let files := Files.ofEntries [("o".toList, .bytes "ignorecase: true\n".toUTF8.toList)]
    let args := ["sub", "--pattern", "a.", "--replacement", "x", "--options", "o", "-s",
      "--first"].map String.toList
    (run [] files "A\nab".toUTF8.toList args).ending.status? = some 0 ∧
    (run [] files "A\nab".toUTF8.toList args).output = "xab".toList ∧
    [⟨false, true, false, false⟩, ⟨true, false, true, false⟩, ⟨false, true, false, false⟩].foldl
      override ⟨true, Flags.verbose⟩ = ⟨false, 74⟩ := by
  intro files args
  let a : Arguments := {
    flags := [(patternFlag, some "a.".toList), (replacementFlag, some ['x']),
      (optionsFlag, some ['o']), (dotAllFlag, none), (firstFlag, none)] }
  have hsub : Asks args "sub" substituteGrammar a :=
    ⟨⟨[], args, []⟩, args.tail, rfl, rfl, rfl, rfl, rfl⟩
  obtain ⟨-, hothers, -, -, -, hruns⟩ := override_layers ⟨true, Flags.verbose⟩
    [⟨false, true, false, false⟩, ⟨true, false, true, false⟩]
  obtain ⟨hfile, hshows⟩ := hruns [] files "A\nab".toUTF8.toList args a hsub
  have hread : readSettings 1 files ['o'] =
      .ok (.map [(.str "ignorecase".toList, .bool true)]) := by
    decide +kernel
  have hgiven : a.givenOptions files = .ok ⟨true, Flags.ignoreCase⟩ :=
    (hfile ['o'] _ rfl nofun hread).trans rfl
  have hshown := hshows _ hgiven
  dsimp only at hshown
  generalize hstages : a.rewriteStages files _ _ = stages at hshown
  have hrewritten : stages.toOption.map Printed.output = some "xab".toList := by
    rw [← hstages]
    decide +kernel
  obtain ⟨p, hp, houtput⟩ := Option.map_eq_some_iff.mp hrewritten
  rw [Except.toOption_eq_some_iff.mp hp] at hshown
  have hsame := hothers [⟨false, true, false, false⟩, ⟨true, false, true, false⟩,
    ⟨false, true, false, false⟩] (by simp [or_comm])
  exact ⟨hshown.1, hshown.2.1.trans houtput, hsame⟩

end Options

end Substitution
