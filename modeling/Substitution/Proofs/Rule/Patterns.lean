import Substitution.Proofs.Pattern.Faults
import Substitution.Proofs.Rule.Entries
import Substitution.Proofs.Session

/-!
# Entries whose pattern is none

Where all else of an entry is as it should be and its pattern is none, the loader reports the entry
by its name, and behind it what is wrong with the pattern. But it looks out for the errors that the
reader of patterns calls its own, and not all are of this kind. A repetition count that is too
large, one that has too many digits and two readings of classes at once are passed on as they are,
and then the report does not say which entry it is about.

What the pattern has to do with it can be seen in its text. An entry has only flags that a switch
can turn on, and no reading of classes is among them, so both readings must be written in the
pattern. A pattern with moderate counts and without two readings is always reported by the name of
its entry: `Substitution.Rule.load_bad_pattern`.
-/

namespace Substitution

/-! ### Errors that are passed on -/

/-- Flags that a switch can turn on choose no reading of classes. -/
theorem Flags.Switchable.has_reading {f : Flags} (h : f.Switchable) :
    f.has Flags.ascii = false ∧ f.has Flags.unicode = false ∧ f.has Flags.locale = false := by
  have hnot (bit : Nat) (hbit : ¬(bit = 1 ∨ bit = 3 ∨ bit = 4)) : f.has (2 ^ bit) = false := by
    have htest : f.testBit bit = false := Bool.eq_false_iff.mpr fun hf => hbit (h bit hf)
    rw [Flags.has, Nat.and_two_pow, htest]
    simp
  exact ⟨hnot 8 (by decide), hnot 5 (by decide), hnot 2 (by decide)⟩

theorem Options.Says.switchable {entries : List (Value × Value)} {o : Options}
    (h : Options.Says entries o) : o.flags.Switchable := by
  rw [Rule.flagsOf_eq h]
  exact Overrides.switchable_flags _

namespace PatternError

variable {text : Text} {flags : Flags} {e : PatternError}

/-- **The text has moderate counts and no two readings**: none of its repetition counts is refused,
and not both readings of classes are written in it. -/
structure Moderate (text : Text) : Prop where
  counts : ∀ digits, HasCount text digits →
    digits.length ≤ Text.maxDigits ∧ Text.ofDecimal digits < PatternReader.countLimit
  readings : ¬(Written text Flags.ascii ∧ Written text Flags.unicode)

/-- **The errors that are passed on as they are**, with what the text has to do with them. -/
inductive PassedOn (text : Text) : PatternError → Prop
  | countTooLarge (digits : Text) (h : HasCount text digits)
    (hlarge : PatternReader.countLimit ≤ Text.ofDecimal digits) : PassedOn text .countTooLarge
  | numberTooLong (digits : Text) (h : HasCount text digits)
    (hlong : Text.maxDigits < digits.length) : PassedOn text (.numberTooLong digits.length)
  | twoReadings (hascii : Written text Flags.ascii) (hunicode : Written text Flags.unicode) :
    PassedOn text .twoReadings

theorem Moderate.not_passedOn (h : Moderate text) : ¬PassedOn text e := by
  rintro (⟨digits, hcount, hlarge⟩ | ⟨digits, hcount, hlong⟩ | ⟨hascii, hunicode⟩)
  · exact absurd (h.counts digits hcount).2 (not_lt.mpr hlarge)
  · exact absurd (h.counts digits hcount).1 (not_le.mpr hlong)
  · exact h.readings ⟨hascii, hunicode⟩

/-- A text without braces and question marks has neither counts nor flags. -/
theorem moderate_of_not_mem (hbrace : '{' ∉ text) (hquestion : '?' ∉ text) : Moderate text := by
  constructor
  · rintro digits ⟨written, least, most, hwritten, hpart, -⟩
    have hmem : '{' ∈ written := by
      cases hwritten <;> exact List.mem_cons_self
    exact absurd (hpart.subset hmem) hbrace
  · rintro ⟨⟨-, letters, letter, hpart, -⟩, -⟩
    exact absurd (hpart.subset (by simp)) hquestion

theorem PassedOn.isNamed (h : PassedOn text e) : e.isNamed = false := by
  cases h <;> rfl

/-- **Under flags that switches can turn on**, each error is one of the usual kind or is passed on
for a reason that stands in the text. -/
theorem Explained.isNamed (h : Explained text flags e) (hflags : flags.Switchable)
    (hnot : ¬PassedOn text e) : e.isNamed = true := by
  obtain ⟨hascii, hunicode, hlocale⟩ := hflags.has_reading
  cases h with
  | placed h =>
    cases h
    rfl
  | defective defect => rfl
  | countTooLarge digits h hlarge => exact absurd (.countTooLarge digits h hlarge) hnot
  | numberTooLong digits h hlong => exact absurd (.numberTooLong digits h hlong) hnot
  | localeReading h =>
    rw [hlocale] at h
    cases h
  | twoReadings ha hu =>
    have ha : Written text Flags.ascii := ha.resolve_left (Bool.eq_false_iff.mp hascii)
    have hu : Written text Flags.unicode := hu.resolve_left (Bool.eq_false_iff.mp hunicode)
    exact absurd (.twoReadings ha hu) hnot

end PatternError

/-! ### What is reported of an entry -/

namespace Rule

open PatternError (Moderate PassedOn)

variable {entries : List (Value × Value)} {pattern replacement : Text} {o : Options}
  {e : PatternError}

/-- **An entry with nothing else wrong is reported for its pattern.** -/
theorem finish_of_bad_pattern (place : Text)
    (hpattern : Value.lookup "pattern" entries = some (.str pattern))
    (hreplacement : Value.lookup "replacement" entries = some (.str replacement))
    (hkeys : ∀ k ∈ entries.map Prod.fst, ∃ t ∈ entryKeys, k = .str t)
    (hoptions : Options.Says entries o) (he : Pattern.compile pattern o.flags = .error e) :
    (Draft.ofEntries place entries).bind Draft.finish = .error (.pattern e) := by
  have hdraft : Draft.ofEntries place entries = .ok ⟨pattern, replacement, o⟩ :=
    Draft.ofEntries_eq_ok_iff.mpr ⟨hpattern, hreplacement, hkeys, hoptions⟩
  refine Except.bind_eq_error_iff.mpr (.inr ⟨_, hdraft, ?_⟩)
  exact Except.bind_eq_error_iff.mpr (.inl (Except.mapError_eq_error_iff.mpr ⟨e, he, rfl⟩))

/-- **The name of the pattern of an entry**, and what is said of it. -/
def badPattern (index : Nat) : Text :=
  "'rules[".toList ++ Text.decimal index ++ "].pattern' is not a valid regex: ".toList

theorem message_pattern (index : Nat) (e : PatternError) :
    (SettingsError.entry ⟨index, .pattern e⟩).message =
      if e.isNamed then badPattern index ++ e.message else e.message := by
  have hname : '\'' :: EntryError.place index ++ ".pattern' is not a valid regex: ".toList =
      badPattern index := by
    unfold EntryError.place badPattern
    simp
  rw [← hname]
  rfl

/-- **A pattern that is none is reported by the name of its entry**, unless its error is one of
those that are passed on.

Let the first entry of a file that gives no rule be a mapping with texts, with no keys but those it
may have, and with options, and let its pattern be none under its flags. Then the loader fails with
the error of the pattern. Whatever the error is, the report names the entry if the pattern has
moderate counts and no two readings. More exactly, it does so, and it is a failure that the program
foresees, unless the error is about a count of the pattern that is refused or about its two
readings; and then the report is the message of this error alone. -/
theorem load_bad_pattern {files : Files} {path : Text} {before after : List Value}
    (h : readSettings 2 files path = .ok (.list (before ++ .map entries :: after)))
    (hbefore : ∀ v ∈ before, Valid v)
    (hpattern : Value.lookup "pattern" entries = some (.str pattern))
    (hreplacement : Value.lookup "replacement" entries = some (.str replacement))
    (hkeys : ∀ k ∈ entries.map Prod.fst, ∃ t ∈ entryKeys, k = .str t)
    (hoptions : Options.Says entries o) (he : Pattern.compile pattern o.flags = .error e) :
    let error : SettingsError := .entry ⟨before.length, .pattern e⟩
    load files path = .error error ∧
      (Moderate pattern → error.message = badPattern before.length ++ e.message) ∧
      (¬PassedOn pattern e → error.message = badPattern before.length ++ e.message ∧
        (CommandLine.Failure.settings error).isReported = true) ∧
      (PassedOn pattern e → error.message = e.message) := by
  intro error
  have hentry : ofValue (0 + before.length) (.map entries) =
      .error ⟨before.length, .pattern e⟩ := by
    rw [Nat.zero_add]
    exact Except.mapError_eq_error_iff.mpr
      ⟨_, finish_of_bad_pattern _ hpattern hreplacement hkeys hoptions he, rfl⟩
  have hload : load files path = .error error := by
    rw [load_eq_of_readSettings h]
    exact Except.mapError_eq_error_iff.mpr
      ⟨_, ofValues_eq_error_iff.mpr ⟨before, _, after, rfl, hbefore, hentry⟩, rfl⟩
  have hmessage := message_pattern before.length e
  have hnamed (hnot : ¬PassedOn pattern e) :
      error.message = badPattern before.length ++ e.message ∧
        (CommandLine.Failure.settings error).isReported = true := by
    have hisNamed := (Pattern.explained_of_compile he).isNamed hoptions.switchable hnot
    rw [if_pos hisNamed] at hmessage
    refine ⟨hmessage, ?_⟩
    cases e with
    | countTooLarge => cases hisNamed
    | _ => rfl
  refine ⟨hload, fun hmoderate => (hnamed hmoderate.not_passedOn).1, hnamed, fun hpassed => ?_⟩
  rwa [if_neg (Bool.eq_false_iff.mp hpassed.isNamed)] at hmessage

/-- Behind an entry that gives a rule stands one with options, whose pattern has a parenthesis that
is not closed. -/
theorem load_bad_pattern_group :
    ∃ error, load (.ofEntries [("r".toList, .bytes ("- \x7bpattern: a, replacement: b\x7d\n" ++
        "- \x7bpattern: (, replacement: b, dotall: true\x7d\n").toUTF8.toList)]) "r".toList =
        .error error ∧
      error.message =
        badPattern 1 ++ "missing ), unterminated subpattern at position 0".toList := by
  let first : Value :=
    .map [(.str "pattern".toList, .str ['a']), (.str "replacement".toList, .str ['b'])]
  let entries : List (Value × Value) := [(.str "pattern".toList, .str ['(']),
    (.str "replacement".toList, .str ['b']), (.str "dotall".toList, .bool true)]
  have hread : readSettings 2 (.ofEntries [("r".toList, .bytes
      ("- \x7bpattern: a, replacement: b\x7d\n" ++
        "- \x7bpattern: (, replacement: b, dotall: true\x7d\n").toUTF8.toList)]) "r".toList =
      .ok (.list ([first] ++ .map entries :: [])) := by
    decide +kernel
  have hfirst : ofValue 0 first = .ok ⟨['a'], ['b'], {}, ⟨[.literal ['b']]⟩⟩ := by
    decide +kernel
  have hbefore : ∀ v ∈ [first], Valid v :=
    List.forall_mem_singleton.mpr ⟨_, ofValue_eq_ok_iff.mp hfirst⟩
  have hkeys : foreignKeys entries = [] := by decide +kernel
  have hoptions : Options.Says entries ⟨true, Flags.dotAll⟩ :=
    ⟨.inr ⟨rfl, rfl⟩, false, false, true, .inr ⟨rfl, rfl⟩, .inr ⟨rfl, rfl⟩, .inl rfl, rfl⟩
  have he : Pattern.compile ['('] Flags.dotAll =
      .error (.malformed ['('] 0 .unterminatedGroup) := rfl
  obtain ⟨hload, hmoderate, -⟩ := load_bad_pattern hread hbefore rfl rfl
    (foreignKeys_eq_nil_iff.mp hkeys) hoptions he
  have hmessage : (PatternError.malformed ['('] 0 .unterminatedGroup).message =
      "missing ), unterminated subpattern at position 0".toList := by decide +kernel
  have hnamed := hmoderate (PatternError.moderate_of_not_mem (by decide) (by decide))
  rw [hmessage] at hnamed
  exact ⟨_, hload, hnamed⟩

/-- **An error that is passed on does not name the entry.** Of a count that is too large nothing
else is said, and of two readings nothing else either. A run of the program does not foresee the
first of them, and ends by it abruptly. -/
theorem reportOf_bad_pattern_passedOn :
    reportOf "- pattern: a\x7b99999999999\x7d\n  replacement: b\n" =
      some "the repetition number is too large".toList ∧
    reportOf "- pattern: (?a)(?u)x\n  replacement: b\n" =
      some "ASCII and UNICODE flags are incompatible".toList ∧
    (CommandLine.run [] (.ofEntries [("r".toList, .bytes
      "- pattern: a\x7b99999999999\x7d\n  replacement: b\n".toUTF8.toList)]) []
      (["apply", "--rules", "r"].map String.toList)).ending.status? = none := by
  decide +kernel

end Rule

end Substitution
