import Substitution.Pattern.Basic
import Substitution.Proofs.Pattern.Forward

/-!
# Why a text is no pattern

A text that is no pattern has a fault at some place, or it follows the grammar and has a defect. The
errors that stand apart have causes that can be seen in the text: a repetition count that is too
large, or too long, is written in braces (`Substitution.PatternError.HasCount`), and a reading of
classes that is asked for besides another one is written in front of the pattern, or given with it
(`Substitution.PatternError.Asked`). No pattern asks for the reading of a locale by itself.

The reader is gone through once, in the order in which it reads. What each step keeps is that the
cursor stands in the text and that each flag of the whole pattern is asked for
(`Substitution.PatternReader.Sourced`), and of each step it is said that its errors have such a
cause. What comes out is `Substitution.Pattern.explained_of_compile`.
-/

namespace Substitution

open Except (Meets)

/-! ### Causes of errors -/

/-- The number that decimal digits spell. -/
def Text.ofDecimal (digits : Text) : Nat :=
  digits.foldl (fun n c => 10 * n + (c.toNat - '0'.toNat)) 0

namespace PatternError

/-- A quantifier in braces, as it is written, with its least and its greatest count. -/
inductive Braced : (written least most : Text) → Prop
  | same (count : Text) : Braced ('{' :: (count ++ ['}'])) count count
  | range (least most : Text) : Braced ('{' :: (least ++ ',' :: (most ++ ['}']))) least most

/-- **A repetition count stands in the text**: the digits are a count of a quantifier in braces. -/
def HasCount (text digits : Text) : Prop :=
  ∃ written least most, Braced written least most ∧ written <:+: text ∧
    (digits = least ∨ digits = most) ∧ ∀ d ∈ digits, Text.isAsciiDigit d = true

theorem HasCount.of_suffix {text written rest least most digits : Text}
    (hwritten : Braced written least most) (h : written ++ rest <:+ text)
    (hcount : digits = least ∨ digits = most) (hdigits : ∀ d ∈ digits, Text.isAsciiDigit d = true) :
    HasCount text digits :=
  ⟨written, least, most, hwritten, (List.prefix_append written rest).isInfix.trans h.isInfix,
    hcount, hdigits⟩

/-- **The flag is written for the whole pattern**: its letter stands among others in parentheses,
behind a question mark. The flag of a locale cannot be written. -/
def Written (text : Text) (f : Flags) : Prop :=
  f ≠ Flags.locale ∧ ∃ letters letter, "(?".toList ++ letters ++ [')'] <:+: text ∧
    letter ∈ letters ∧ InlineFlags.flag? letter = some f

/-- The flag is given with the text, or written in it. -/
def Asked (text : Text) (flags f : Flags) : Prop :=
  flags.has f = true ∨ Written text f

/-- **The error has a cause.** -/
inductive Explained (text : Text) (flags : Flags) : PatternError → Prop
  | placed {e : PatternError} (h : Placed e) : Explained text flags e
  | defective (defect : PatternDefect) : Explained text flags (.defective defect)
  | countTooLarge (digits : Text) (h : HasCount text digits)
    (hlarge : PatternReader.countLimit ≤ Text.ofDecimal digits) :
    Explained text flags .countTooLarge
  | numberTooLong (digits : Text) (h : HasCount text digits)
    (hlong : Text.maxDigits < digits.length) : Explained text flags (.numberTooLong digits.length)
  | localeReading (h : flags.has Flags.locale = true) : Explained text flags .localeReading
  | twoReadings (hascii : Asked text flags Flags.ascii)
    (hunicode : Asked text flags Flags.unicode) : Explained text flags .twoReadings

theorem Reads.explained {α : Type} {P : α → Prop} {x : Except PatternError α} (h : Reads P x)
    (text : Text) (flags : Flags) : Meets P (Explained text flags) x :=
  h.imp (fun _ ha => ha) fun _ he => .placed he

end PatternError

/-! ### Flags -/

theorem Flags.has_or (s t f : Flags) : Flags.has (s ||| t) f = (s.has f || t.has f) := by
  rw [Bool.eq_iff_iff, Bool.or_eq_true]
  simp only [has, bne_iff_ne, Nat.and_or_distrib_right, Ne, Nat.or_eq_zero_iff]
  exact Decidable.not_and_iff_not_or_not

namespace InlineFlags

open Cursor

open PatternError (Reads Written)

/-- The flags that have letters. -/
def lettered : List Flags :=
  [Flags.ignoreCase, Flags.locale, Flags.multiline, Flags.dotAll, Flags.verbose, Flags.ascii,
    Flags.rigid, Flags.unicode]

theorem mem_lettered {letter : Char} {f : Flags} (h : flag? letter = some f) : f ∈ lettered := by
  unfold flag? at h
  split at h
  case h_9 => cases h
  all_goals
    obtain rfl := Option.some.inj h
    decide

theorem eq_of_has {letter : Char} {f g : Flags} (h : flag? letter = some g) (hf : f ∈ lettered)
    (hhas : g.has f = true) : g = f := by
  have hall : ∀ g ∈ lettered, ∀ f ∈ lettered, g.has f = true → g = f := by decide
  exact hall g (mem_lettered h) f hf hhas

variable {c : Cursor} {whole : Text}

theorem reads_notFlag {α : Type} {P : α → Prop} (t : PatternToken) (missing : PatternFault)
    (c : Cursor) : Reads P (notFlag t missing c) := by
  cases t with
  | plain d => exact c.reads_fail _ _
  | escaped d => exact c.reads_fail _ _
  | dangling => exact c.reads_fail _ _

/-- A token that stands for a flag is its letter. -/
theorem eq_plain_of_ofToken? {t : PatternToken} {f : Flags} (h : ofToken? t = some f) :
    ∃ letter, t = .plain letter ∧ flag? letter = some f := by
  cases t with
  | plain letter => exact ⟨letter, rfl, h⟩
  | escaped d => cases h
  | dangling => cases h

/-- The flags that are on have letters among these, or they were on before. -/
def OnBy (before : Flags) (letters : Text) (on : Flags) : Prop :=
  ∀ f ∈ lettered, on.has f = true → before.has f = true ∨
    f ≠ Flags.locale ∧ ∃ letter ∈ letters, flag? letter = some f

/-- A letter turns its own flag on and no other. -/
theorem OnBy.cons {before on g : Flags} {letter : Char} {letters : Text}
    (h : OnBy (before ||| g) letters on) (hletter : flag? letter = some g)
    (hne : g ≠ Flags.locale) : OnBy before (letter :: letters) on := by
  intro f hf hon
  rcases h f hf hon with hbefore | ⟨hlocale, l, hl, hflag⟩
  · rw [Flags.has_or, Bool.or_eq_true] at hbefore
    refine hbefore.imp_right fun hg => ?_
    obtain rfl := eq_of_has hletter hf hg
    exact ⟨hne, letter, List.mem_cons_self, hletter⟩
  · exact .inr ⟨hlocale, l, List.mem_cons_of_mem _ hl, hflag⟩

theorem OnBy.refl (on : Flags) : OnBy on [] on :=
  fun _ _ h => .inl h

/-- **Flags are turned on by letters**, which stand one after another up to the character that ends
them. -/
theorem reads_readOn (on : Flags) (limit : Nat) (t : PatternToken) (c : Cursor) :
    Reads (fun taken => ∃ letters, t.spell ++ c.left = letters ++ taken.2.1 :: taken.2.2.left ∧
      OnBy on letters taken.1) (readOn on limit t c) := by
  induction limit generalizing on t c with
  | zero => exact c.reads_fail _ _
  | succ limit ih =>
    rw [readOn]
    split
    · exact reads_notFlag _ _ c
    next g hg =>
    obtain ⟨letter, rfl, hletter⟩ := eq_plain_of_ofToken? hg
    refine .ite (fun _ => c.reads_fail _ _) fun hne => ?_
    refine .ite (fun _ => c.reads_fail _ _) fun _ => ?_
    split
    · exact c.reads_fail _ _
    next u hu =>
    refine (reads_advance hu).bind fun c' hc' => ?_
    have hone : OnBy on [letter] (on ||| g) := (OnBy.refl _).cons hletter hne
    have hend (d : Char) (hd : u = .plain d) :
        (PatternToken.plain letter).spell ++ c.left = [letter] ++ d :: c'.left := by
      rw [hc', hd]
      rfl
    split
    · exact .ok ⟨[letter], hend _ rfl, hone⟩
    · exact .ok ⟨[letter], hend _ rfl, hone⟩
    · exact .ok ⟨[letter], hend _ rfl, hone⟩
    · refine (ih (on ||| g) u c').imp (fun taken => ?_) fun _ he => he
      rintro ⟨letters, hletters, hon⟩
      refine ⟨letter :: letters, ?_, hon.cons hletter hne⟩
      rw [hc', hletters]
      rfl

theorem reads_readOff (h : Within whole c) (missing : PatternFault) (off : Flags) (limit : Nat)
    (t : PatternToken) :
    Reads (fun taken => Within whole taken.2) (readOff missing off limit t c) := by
  induction limit generalizing missing off t c with
  | zero => exact c.reads_fail _ _
  | succ limit ih =>
    rw [readOff]
    split
    · exact reads_notFlag _ _ c
    refine .ite (fun _ => c.reads_fail _ _) fun _ => ?_
    split
    · exact c.reads_fail _ _
    exact h.advance.bind fun c' hc' => .ite (fun _ => .ok hc') fun _ => ih hc' _ _ _

/-- Flags that are turned on from nothing, up to a closing parenthesis, are written there. -/
theorem OnBy.written {letters : Text} {on : Flags} (h : OnBy 0 letters on)
    (hleft : "(?".toList ++ (letters ++ ')' :: c.left) <:+ whole) :
    ∀ f ∈ lettered, on.has f = true → Written whole f := by
  intro f hf hon
  rcases h f hf hon with hnone | ⟨hne, letter, hletter, hflag⟩
  · rw [Flags.has, Nat.zero_and] at hnone
    cases hnone
  · have hprefix : "(?".toList ++ letters ++ [')'] <+: "(?".toList ++ (letters ++ ')' :: c.left) :=
      ⟨c.left, by simp⟩
    exact ⟨hne, letters, letter, hprefix.isInfix.trans hleft.isInfix, hletter, hflag⟩

/-- **Flags that are read for the whole pattern are written in it.** -/
theorem reads_read {t : PatternToken} (h : "(?".toList ++ (t.spell ++ c.left) <:+ whole) :
    Reads (fun taken => Within whole taken.2 ∧ ∀ on, taken.1 = .whole on →
      ∀ f ∈ lettered, on.has f = true → Written whole f) (read t c) := by
  have hc : Within whole c := .of_append ("(?".toList ++ t.spell) (by rwa [List.append_assoc])
  have hon : Reads (fun taken => Within whole taken.2.2 ∧ (taken.2.1 = ')' →
      ∀ f ∈ lettered, taken.1.has f = true → Written whole f))
      (if t = .plain '-' then .ok ((0 : Flags), '-', c) else readOn 0 (c.rest.length + 1) t c) := by
    refine .ite (fun _ => .ok ⟨hc, fun h => ?_⟩) fun _ => ?_
    · have hne : '-' ≠ ')' := by decide
      exact absurd h hne
    refine (reads_readOn 0 _ t c).imp (fun taken => ?_) fun _ he => he
    rintro ⟨letters, hletters, hby⟩
    rw [hletters] at h
    refine ⟨.of_append ("(?".toList ++ (letters ++ [taken.2.1])) ?_, fun hend => ?_⟩
    · simpa using h
    · rw [hend] at h
      exact hby.written h
  rw [read]
  refine hon.ite_bind fun (on, ending, c') ⟨hc', hwritten⟩ => ?_
  refine .ite (fun hend => .ok ⟨hc', ?_⟩) fun _ => .ite (fun _ => c'.reads_fail _ _) fun _ => ?_
  · rintro _ ⟨⟩
    exact hwritten hend
  -- Behind the flags that are turned off, only the group with flags is left.
  have hgroup (off : Flags) {c'' : Cursor} (hc'' : Within whole c'') :
      Reads (fun taken => Within whole taken.2 ∧ ∀ on, taken.1 = .whole on →
        ∀ f ∈ lettered, on.has f = true → Written whole f)
      (if off.has Flags.rigid then c''.fail .wholePatternFlagOff 1
        else if on.has off then c''.fail .flagOnAndOff 1
        else .ok (group on off, c'')) :=
    .ite (fun _ => c''.reads_fail _ _) fun _ =>
      .ite (fun _ => c''.reads_fail _ _) fun _ => .ok ⟨hc'', nofun⟩
  refine .ite (fun _ => ?_) fun _ => hgroup 0 hc'
  split
  · exact (c'.reads_fail _ _).bind fun _ hc'' => hgroup _ hc''
  · exact hc'.advance.bind fun _ h₁ => (reads_readOff h₁ _ _ _ _).bind fun _ h₂ => hgroup _ h₂

end InlineFlags

/-! ### Steps of the reader -/

namespace PatternReader

open Cursor

open PatternError (Explained HasCount Asked Braced)

variable {text : Text} {flags : Flags} {r : PatternReader}

/-- **The reader stands in the text**, and each flag of the whole pattern is asked for. -/
structure Sourced (text : Text) (flags : Flags) (r : PatternReader) : Prop where
  within : Within text r.cursor
  asked : ∀ f ∈ InlineFlags.lettered, r.flags.has f = true → Asked text flags f

/-- A step that does not touch the flags of the whole pattern. -/
theorem Sourced.of_within {next : PatternReader} (h : r.Sourced text flags)
    (hnext : Within text next.cursor) (hflags : next.flags = r.flags) :
    next.Sourced text flags :=
  ⟨hnext, hflags ▸ h.asked⟩

theorem Sourced.congr {next : PatternReader} (h : r.Sourced text flags)
    (hcursor : next.cursor = r.cursor) (hflags : next.flags = r.flags) :
    next.Sourced text flags :=
  h.of_within (hcursor ▸ h.within) hflags

theorem meets_failAt {α : Type} {P : α → Prop} (r : PatternReader) (position : Nat)
    (fault : PatternFault) : Meets P (Explained text flags) (r.failAt position fault) :=
  .error (.placed (.malformed ..))

theorem meets_fail {α : Type} {P : α → Prop} (c : Cursor) (fault : PatternFault) (back : Nat) :
    Meets P (Explained text flags) (c.fail fault back) :=
  (c.reads_fail fault back).explained text flags

theorem Sourced.quantify (h : r.Sourced text flags) (start least : Nat) (most : Option Nat) :
    Meets (Sourced text flags) (Explained text flags) (r.quantify start least most) := by
  rw [PatternReader.quantify.eq_def]
  split
  · exact r.meets_failAt _ _
  refine .ite (fun _ => r.meets_failAt _ _) fun _ => .ite (fun _ => r.meets_failAt _ _) fun _ => ?_
  refine ((h.within.skip? _).explained text flags).bind fun lazily hlazily => ?_
  dsimp only
  split
  next c => exact .bind (.ok (hlazily c rfl)) fun _ hc => .ok (h.of_within hc rfl)
  refine ((h.within.skip? _).explained text flags).bind fun possessive hpossessive => ?_
  split
  next c => exact .bind (.ok (hpossessive c rfl)) fun _ hc => .ok (h.of_within hc rfl)
  next => exact .bind (.ok h.within) fun _ hc => .ok (h.of_within hc rfl)

/-- **A repetition count that is refused is too large or too long.** -/
theorem meets_count {digits : Text} (h : HasCount text digits) :
    Meets (fun _ => True) (Explained text flags) (count digits) := by
  refine .ite (fun hlong => .error (.numberTooLong digits h hlong)) fun _ => ?_
  refine .ite (fun _ => .ok trivial) fun hsmall => ?_
  exact .error (.countTooLarge digits h (not_lt.mp hsmall))

/-- Behind a brace and the digits of a count, the digits of another one have been taken, or the same
ones count again: if the brace is closed here, both are counts. -/
def Counted (text least : Text) (taken : Text × Cursor) : Prop :=
  Within text taken.2 ∧ ∀ c' : Cursor, taken.2.left = '}' :: c'.left →
    HasCount text least ∧ HasCount text taken.1

theorem counted_same {least : Text} {c : Cursor} (h : '{' :: (least ++ c.left) <:+ text)
    (hleast : ∀ d ∈ least, Text.isAsciiDigit d = true) : Counted text least (least, c) := by
  refine ⟨.of_append ('{' :: least) h, fun c' hc' => ?_⟩
  have hsuffix : '{' :: (least ++ ['}']) ++ c'.left <:+ text := by
    rw [hc'] at h
    simpa using h
  exact and_self_iff.mpr (.of_suffix (.same least) hsuffix (.inl rfl) hleast)

theorem counted_range {least most : Text} {c : Cursor}
    (h : '{' :: (least ++ ',' :: (most ++ c.left)) <:+ text)
    (hleast : ∀ d ∈ least, Text.isAsciiDigit d = true)
    (hmost : ∀ d ∈ most, Text.isAsciiDigit d = true) : Counted text least (most, c) := by
  refine ⟨.of_append ('{' :: (least ++ ',' :: most)) (by simpa using h), fun c' hc' => ?_⟩
  have hsuffix : '{' :: (least ++ ',' :: (most ++ ['}'])) ++ c'.left <:+ text := by
    rw [hc'] at h
    simpa using h
  exact ⟨.of_suffix (.range least most) hsuffix (.inl rfl) hleast,
    .of_suffix (.range least most) hsuffix (.inr rfl) hmost⟩

theorem Sourced.readBraces (h : r.Sourced text flags) (hbrace : '{' :: r.cursor.left <:+ text) :
    Meets (Sourced text flags) (Explained text flags) r.readBraces := by
  have hitself : (r.pushTest (.code '{'.toNat false)).Sourced text flags := h.congr rfl rfl
  rw [PatternReader.readBraces]
  refine .ite (fun _ => .ok hitself) fun _ => ?_
  refine ((reads_takeAll _ _).explained text flags).bind fun (lo, c₁) ⟨hlo, hleast⟩ => ?_
  rw [hlo] at hbrace
  refine ((reads_skip? c₁ _).explained text flags).bind fun comma hcomma => ?_
  extract_lets close
  -- Where the brace is closed, the digits before it have been counts.
  have hclose (taken : Text × Cursor) (htaken : Counted text lo taken) :
      Meets (Sourced text flags) (Explained text flags) (close taken) := by
    obtain ⟨hc₂, hcounts⟩ := htaken
    refine ((reads_skip? taken.2 _).explained text flags).bind fun closed hclosed => ?_
    split
    · exact .ok hitself
    next c₃ =>
    obtain ⟨hlo, hhi⟩ := hcounts c₃ (hclosed c₃ rfl)
    have hc₃ : Within text c₃ := hc₂.of_eq ['}'] (hclosed c₃ rfl)
    refine Meets.ite_bind (P := fun _ => True)
      (.ite (fun _ => .ok trivial) fun _ => meets_count hlo) fun least _ => ?_
    refine Meets.ite_bind (P := fun _ => True) (.ite (fun _ => .ok trivial) fun _ =>
      (meets_count hhi).map fun _ _ => trivial) fun most _ => ?_
    have hr : Sourced text flags { r with cursor := c₃ } := h.of_within hc₃ rfl
    exact .ite (fun _ => r.meets_failAt _ _) fun _ => hr.quantify _ _ _
  cases comma with
  | none => exact .bind (.ok (counted_same hbrace hleast)) fun taken htaken => hclose taken htaken
  | some c =>
    refine ((reads_takeAll _ c).explained text flags).bind fun taken ⟨htaken, hmost⟩ => ?_
    rw [hcomma c rfl, htaken] at hbrace
    exact hclose taken (counted_range hbrace hleast hmost)

theorem meets_checkBehind (r : PatternReader) (group : Nat) :
    Meets (fun _ => True) (Explained text flags) (r.checkBehind group) := by
  rw [checkBehind]
  split
  · exact .ok trivial
  · exact .ite (fun _ => meets_fail _ _ _) fun _ =>
      .ite (fun _ => meets_fail _ _ _) fun _ => .ok trivial

/-- A reference to a group, which is judged where it stands. -/
theorem Sourced.again (h : r.Sourced text flags) (group : Nat) :
    Meets (Sourced text flags) (Explained text flags) (do
      r.checkBehind group
      .ok (r.push (.single (.again group r.mode)))) :=
  (r.meets_checkBehind group).bind fun _ _ => .ok (h.congr rfl rfl)

theorem Sourced.readEscape (h : r.Sourced text flags) (e : Char) :
    Meets (Sourced text flags) (Explained text flags) (r.readEscape e) := by
  rw [PatternReader.readEscape]
  refine ((Escape.reads_read h.within e).explained text flags).bind fun (meaning, c) hc => ?_
  have hr : Sourced text flags { r with cursor := c } := h.of_within hc rfl
  dsimp only
  split
  · exact .ok (hr.congr rfl rfl)
  · exact .ok (hr.congr rfl rfl)
  · exact .ok (hr.congr rfl rfl)
  · exact .ok (hr.congr rfl rfl)
  · exact .ok (hr.congr rfl rfl)
  · refine .ite (fun _ => ?_) fun _ => meets_fail _ _ _
    exact .ite (fun _ => meets_fail _ _ _) fun _ => hr.again _

theorem meets_groupName {c : Cursor} (h : Within text c) (terminator : Char) :
    Meets (fun taken => Within text taken.2) (Explained text flags) (groupName c terminator) :=
  ((h.name _ _).explained text flags).bind fun _ hc =>
    .ite (fun _ => .ok hc) fun _ => meets_fail _ _ _

theorem Sourced.readNamed (h : r.Sourced text flags) (start : Nat) :
    Meets (Sourced text flags) (Explained text flags) (r.readNamed start) := by
  rw [PatternReader.readNamed]
  refine ((h.within.skip? _).explained text flags).bind fun definition hdefinition => ?_
  refine ((h.within.skip? _).explained text flags).bind fun reference hreference => ?_
  split
  next c =>
    refine (meets_groupName (hdefinition c rfl) _).bind fun (name, c') hc' => ?_
    dsimp only
    split
    · exact meets_fail _ _ _
    · exact .ok (h.of_within hc' rfl)
  next c =>
    refine (meets_groupName (hreference c rfl) _).bind fun (name, c') hc' => ?_
    have hr : Sourced text flags { r with cursor := c' } := h.of_within hc' rfl
    dsimp only
    split
    · exact meets_fail _ _ _
    · exact .ite (fun _ => meets_fail _ _ _) fun _ => hr.again _
  · split
    · exact meets_fail _ _ _
    · exact (h.within.advance.explained text flags).bind fun _ _ => meets_fail _ _ _

theorem Sourced.readBehind (h : r.Sourced text flags) (start : Nat) :
    Meets (Sourced text flags) (Explained text flags) (r.readBehind start) := by
  rw [PatternReader.readBehind]
  split
  · exact meets_fail _ _ _
  · exact (h.within.advance.explained text flags).bind fun c hc =>
      .ite (fun _ => .ok (h.of_within hc rfl)) fun _ => meets_fail _ _ _

theorem Sourced.readGiven (h : r.Sourced text flags) (start : Nat) :
    Meets (Sourced text flags) (Explained text flags) (r.readGiven start) := by
  rw [PatternReader.readGiven]
  refine ((h.within.name _ _).explained text flags).bind fun (name, c) hc => ?_
  -- The number of the group is found in one way or another, and then the frame is opened.
  have hopen (g : Nat) (next : PatternReader) (hnext : next.Sourced text flags) :
      Meets (Sourced text flags) (Explained text flags) (do
        next.checkBehind g
        .ok (next.openFrame (.given g) start next.frame.flags)) :=
    (next.meets_checkBehind g).bind fun _ _ => .ok (hnext.congr rfl rfl)
  have hfail {fault : PatternFault} {back : Nat} {f : Nat × PatternReader → _} :
      Meets (Sourced text flags) (Explained text flags) (c.fail fault back >>= f) :=
    meets_fail c fault back
  have hr : Sourced text flags { r with cursor := c } := h.of_within hc rfl
  dsimp only
  split
  · split
    · exact hfail
    · exact hopen _ _ hr
  · split
    · exact hfail
    · exact hfail
    refine .ite (fun _ => hfail) fun _ => .ite (fun _ => hfail) fun _ => ?_
    exact .ite (fun _ => hopen _ _ hr) fun _ => hopen _ _ (h.of_within hc rfl)

theorem Sourced.readFlags (h : r.Sourced text flags) (start : Nat) {t : PatternToken}
    (hleft : "(?".toList ++ (t.spell ++ r.cursor.left) <:+ text) :
    Meets (Sourced text flags) (Explained text flags) (r.readFlags start t) := by
  rw [PatternReader.readFlags]
  refine ((InlineFlags.reads_read hleft).explained text flags).bind
    fun (inlineFlags, c) ⟨hc, hwritten⟩ => ?_
  cases inlineFlags with
  | group on off => exact .ok (h.of_within hc rfl)
  | whole on =>
    refine .ite (fun _ => .ok ⟨hc, fun f hf hon => ?_⟩) fun _ => meets_failAt _ _ _
    rw [Flags.has_or, Bool.or_eq_true] at hon
    exact hon.elim (h.asked f hf) fun hon => .inr (hwritten on rfl f hf hon)

/-! ### Comments and groups -/

theorem meets_skipComment {c : Cursor} (h : Within text c) (start limit : Nat) :
    Meets (Within text) (Explained text flags) (skipComment start limit c) := by
  induction limit generalizing c with
  | zero => exact .ok h
  | succ limit ih =>
    rw [skipComment]
    split
    · exact meets_fail _ _ _
    · exact (h.advance.explained text flags).bind fun c hc => .ite (fun _ => .ok hc) fun _ => ih hc

theorem meets_skipLine {c : Cursor} (h : Within text c) (limit : Nat) :
    Meets (Within text) (Explained text flags) (skipLine limit c) := by
  induction limit generalizing c with
  | zero => exact .ok h
  | succ limit ih =>
    rw [skipLine]
    split
    · exact .ok h
    · exact (h.advance.explained text flags).bind fun c hc => .ite (fun _ => .ok hc) fun _ => ih hc

theorem Sourced.readGroup (h : r.Sourced text flags) (start : Nat)
    (hparen : '(' :: r.cursor.left <:+ text) :
    Meets (Sourced text flags) (Explained text flags) (r.readGroup start) := by
  rw [PatternReader.readGroup]
  refine ((reads_skip? _ _).explained text flags).bind fun question hquestion => ?_
  split
  · exact .ok (h.congr rfl rfl)
  next c =>
  rw [hquestion c rfl] at hparen
  split
  · exact meets_fail _ _ _
  next t ht =>
  refine ((reads_advance ht).explained text flags).bind fun c' hc' => ?_
  rw [hc'] at hparen
  have hwithin : Within text c' := .of_append ("(?".toList ++ t.spell) (by simpa using hparen)
  have hr : Sourced text flags { r with cursor := c' } := h.of_within hwithin rfl
  dsimp only
  split
  · exact hr.readNamed start
  · exact .ok (hr.congr rfl rfl)
  · exact (meets_skipComment hwithin _ _).bind fun c hc => .ok (h.of_within hc rfl)
  · exact .ok (hr.congr rfl rfl)
  · exact .ok (hr.congr rfl rfl)
  · exact hr.readBehind start
  · exact hr.readGiven start
  · exact .ok (hr.congr rfl rfl)
  · exact .ite (fun _ => hr.readFlags start hparen) fun _ => meets_fail _ _ _

theorem Sourced.readPlain {d : Char} (h : r.Sourced text flags)
    (hleft : d :: r.cursor.left <:+ text) :
    Meets (Sourced text flags) (Explained text flags) (r.readPlain d) := by
  rw [PatternReader.readPlain.eq_def]
  dsimp only
  refine .ite (fun _ => .ok h) fun _ => .ite (fun _ => ?_) fun _ => ?_
  · exact (meets_skipLine h.within _).bind fun c hc => .ok (h.of_within hc rfl)
  split
  · exact ((CharacterSet.reads_read h.within).explained text flags).bind fun _ hc =>
      .ok (h.of_within hc rfl)
  · exact h.quantify _ _ _
  · exact h.quantify _ _ _
  · exact h.quantify _ _ _
  · exact h.readBraces hleft
  · exact .ok (h.congr rfl rfl)
  · exact h.readGroup _ hleft
  · exact .ok (h.congr rfl rfl)
  · exact .ok (h.congr rfl rfl)
  · exact .ok (h.congr rfl rfl)

/-! ### The whole pattern -/

theorem Sourced.checkFlags (h : r.Sourced text flags) :
    Meets (fun _ => True) (Explained text flags) r.checkFlags := by
  refine .ite (fun hlocale => .error (.localeReading ?_)) fun _ => .ite (fun hboth => ?_) fun _ =>
    .ok trivial
  · rcases h.asked Flags.locale (by decide) hlocale with hgiven | ⟨hne, -⟩
    · exact hgiven
    · exact absurd rfl hne
  · exact .error (.twoReadings (h.asked _ (by decide) hboth.1) (h.asked _ (by decide) hboth.2))

theorem Sourced.finish (h : r.Sourced text flags) :
    Meets (fun _ => True) (Explained text flags) r.finish := by
  refine .ite (fun _ => h.checkFlags.bind fun _ _ => ?_) fun _ => r.meets_failAt _ _
  split
  · exact r.meets_failAt _ _
  · exact .ok trivial

theorem cursor_close (r : PatternReader) (outer : Frame) (rest : List Frame) :
    (r.close outer rest).cursor = r.cursor ∧ (r.close outer rest).flags = r.flags := by
  rw [close.eq_def]
  dsimp only
  split
  case h_7 => split <;> exact ⟨rfl, rfl⟩
  all_goals exact ⟨rfl, rfl⟩

theorem Sourced.step (h : r.Sourced text flags) {t : PatternToken} (ht : r.cursor.next = some t) :
    Meets (Sourced text flags) (Explained text flags) (r.step t) := by
  have htaken := ((reads_advance ht).explained text flags)
  have htoken {c : Cursor} (hc : r.cursor.left = t.spell ++ c.left) :
      Sourced text flags { r with cursor := c } ∧ t.spell ++ c.left <:+ text := by
    have hleft : t.spell ++ c.left <:+ text := hc ▸ h.within
    exact ⟨h.of_within (.of_append t.spell hleft) rfl, hleft⟩
  rw [PatternReader.step.eq_def]
  split
  · refine .ite (fun _ => meets_fail _ _ _) fun _ => ?_
    exact (h.within.advance.explained text flags).bind fun c hc => .ok (h.of_within hc rfl)
  · split
    · exact h.checkFlags.bind fun _ _ => meets_fail _ _ _
    · refine (h.within.advance.explained text flags).bind fun c hc => .ok ?_
      have hclose := cursor_close { r with cursor := c }
      exact h.of_within ((hclose _ _).1 ▸ hc) (hclose _ _).2
  · exact htaken.bind fun c hc => (htoken hc).1.readPlain (htoken hc).2
  · exact htaken.bind fun c hc => (htoken hc).1.readEscape _
  · exact htaken.bind fun c hc => .ok (htoken hc).1

/-- **From where the reader stands, each error has a cause.** -/
theorem Sourced.run (h : r.Sourced text flags) (limit : Nat) :
    Meets (fun _ => True) (Explained text flags) (run limit r) := by
  induction limit generalizing r with
  | zero => exact h.finish
  | succ limit ih =>
    rw [PatternReader.run]
    split
    · exact h.finish
    · next t ht => exact (h.step ht).bind fun _ hnext => ih hnext

end PatternReader

open PatternError (Explained)

theorem PatternTree.meets_read (text : Text) (flags : Flags) :
    Meets (fun _ => True) (Explained text flags) (PatternTree.read text flags) := by
  refine ((Cursor.reads_start text).explained text flags).bind fun c hc => ?_
  exact PatternReader.Sourced.run ⟨hc ▸ List.suffix_rfl, fun _ _ h => .inl h⟩ _

/-- **Each error of a text that is no pattern has a cause.** It has a place in the text or is a
defect of the pattern, or a count that is refused stands in the text, or the flags are asked for
that do not go together. -/
theorem Pattern.explained_of_compile {text : Text} {flags : Flags} {e : PatternError}
    (h : Pattern.compile text flags = .error e) : Explained text flags e := by
  rcases Except.bind_eq_error_iff.mp h with h | ⟨tree, -, h⟩
  · exact (PatternTree.meets_read text flags).2 e h
  · split at h
    · cases h
      exact .defective _
    · cases h

end Substitution
