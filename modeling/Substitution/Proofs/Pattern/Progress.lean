import Substitution.Pattern.Matcher

/-!
# A match moves forward

A matcher hands states to its continuation, and the answer is the first one that the continuation
accepts. So what holds of every state that a matcher hands on holds of every match.
`Substitution.Matcher.Keeps` says that a matcher hands on only states whose position a given
relation allows after the one it began with, and that its answer is the continuation's. Nothing is
said of marks, which also ways that have been given up can change. Whatever the relation, if it is
reflexive and transitive, then all the repetitions of a matcher keep it when the matcher does.

The relation that is wanted is `Substitution.Precedes`: the position does not go back and does not
leave the text. `Substitution.Node.keeps_run` proves it of every tree, with no assumption on how the
tree came about. The constructs that look elsewhere in the text, `ahead` and `behind`, put the
position back where it was.
-/

namespace Substitution

/-! ### Trials that match -/

namespace Trial

theorem orElse_eq_matched_iff {t : Trial} {other : Marks → Trial} {out : MatchState} :
    t.orElse other = .matched out ↔
      t = .matched out ∨ ∃ left, t = .failed left ∧ other left = .matched out := by
  cases t <;> simp [orElse]

theorem andThen_eq_matched_iff {t : Trial} {k : MatchState → Trial} {out : MatchState} :
    t.andThen k = .matched out ↔ ∃ mid, t = .matched mid ∧ k mid = .matched out := by
  cases t <;> simp [andThen]

end Trial

/-! ### Matchers that keep a relation -/

namespace Matcher

/-- The matcher hands on only states whose position `R` allows after the one it began with, and it
answers only what its continuation answers for one of them. -/
def Keeps (R : Nat → Nat → Prop) (m : Matcher) : Prop :=
  ∀ (st : MatchState) (k : Continuation) (out : MatchState), m st k = .matched out →
    ∃ mid : MatchState, R st.position mid.position ∧ k mid = .matched out

section Repetition

variable {R : Nat → Nat → Prop} {m n : Matcher} {whole : Bool}

theorem Keeps.first (hm : Keeps R m) {st out : MatchState} (h : m.first st = .matched out) :
    R st.position out.position := by
  obtain ⟨mid, hmid, hout⟩ := hm st .matched out h
  obtain rfl : mid = out := Trial.matched.inj hout
  exact hmid

theorem Keeps.either (hm : Keeps R m) (hn : Keeps R n) : Keeps R (either whole m n) := by
  intro st k out h
  rcases Trial.orElse_eq_matched_iff.mp h with h | ⟨left, -, h⟩
  · exact hm st k out h
  rcases Trial.orElse_eq_matched_iff.mp h with h | ⟨left', -, h⟩
  · exact hn ⟨st.position, Marks.takeBack whole st.marks left⟩ k out h
  · cases h

/-- What is gone on with at each of some places is one of them. -/
theorem exists_mem_of_atEach {saved marks : Marks} {k : Continuation} {places : List Nat}
    {out : MatchState} (h : atEach whole saved k places marks = .matched out) :
    ∃ mid : MatchState, mid.position ∈ places ∧ k mid = .matched out := by
  induction places generalizing marks with
  | nil => cases h
  | cons place places ih =>
    rcases Trial.orElse_eq_matched_iff.mp h with h | ⟨left, -, h⟩
    · exact ⟨_, List.mem_cons_self, h⟩
    · obtain ⟨mid, hmid, hout⟩ := ih h
      exact ⟨mid, List.mem_cons_of_mem place hmid, hout⟩

section

variable (hrefl : ∀ a, R a a) (htrans : ∀ a b c, R a b → R b c → R a c)

include hrefl htrans

/-- Places that are reached one by one are related to the first one if each is to the next. -/
theorem mem_reach {passes : Nat → Bool} (hpasses : ∀ i, passes i = true → R i (i + 1))
    {limit position place : Nat} (h : place ∈ reach passes limit position) :
    R position place := by
  induction limit generalizing position with
  | zero =>
    obtain rfl := List.mem_singleton.mp h
    exact hrefl place
  | succ limit ih =>
    rcases List.mem_cons.mp h with rfl | h
    · exact hrefl place
    split at h
    · next hpass => exact htrans _ _ _ (hpasses position hpass) (ih h)
    · cases h

theorem keeps_unitLoop {passes : Nat → Bool} (hpasses : ∀ i, passes i = true → R i (i + 1))
    (size least : Nat) (most : Option Nat) (greed : Greed) :
    Keeps R (unitLoop passes whole size least most greed) := by
  intro st k out h
  have hplace {place : Nat} (hmem : place ∈
      (reach passes (most.getD (size - st.position)) st.position).drop least) :
      R st.position place :=
    mem_reach hrefl htrans hpasses (List.mem_of_mem_drop hmem)
  cases greed with
  | greedy =>
    obtain ⟨mid, hmid, hout⟩ := exists_mem_of_atEach h
    exact ⟨mid, hplace (List.mem_reverse.mp hmid), hout⟩
  | lazy =>
    obtain ⟨mid, hmid, hout⟩ := exists_mem_of_atEach h
    exact ⟨mid, hplace hmid, hout⟩
  | possessive =>
    dsimp only [unitLoop] at h
    split at h
    · next place hlast => exact ⟨_, hplace (List.mem_of_getLast? hlast), h⟩
    · cases h

theorem Keeps.exactly (hm : Keeps R m) (times : Nat) : Keeps R (exactly m times) := by
  induction times with
  | zero =>
    intro st k out h
    exact ⟨st, hrefl _, h⟩
  | succ times ih =>
    intro st k out h
    obtain ⟨next, hnext, hrest⟩ := hm st _ out h
    obtain ⟨mid, hmid, hout⟩ := ih next k out hrest
    exact ⟨mid, htrans _ _ _ hnext hmid, hout⟩

theorem Keeps.greedy (hm : Keeps R m) (times : Nat) (last : Option Nat) :
    Keeps R (greedy m times last) := by
  induction times generalizing last with
  | zero =>
    intro st k out h
    exact ⟨st, hrefl _, h⟩
  | succ times ih =>
    intro st k out h
    rw [Matcher.greedy] at h
    split at h
    · exact ⟨st, hrefl _, h⟩
    -- Either the body went round once more, or the loop stopped where it was.
    rcases Trial.orElse_eq_matched_iff.mp h with hmore | ⟨left, -, hstop⟩
    · obtain ⟨next, hnext, hrest⟩ := hm st _ out hmore
      obtain ⟨mid, hmid, hout⟩ := ih _ next k out hrest
      exact ⟨mid, htrans _ _ _ hnext hmid, hout⟩
    · exact ⟨st, hrefl _, hstop⟩

theorem Keeps.lazily (hm : Keeps R m) (times : Nat) (last : Option Nat) :
    Keeps R (lazily whole m times last) := by
  induction times generalizing last with
  | zero =>
    intro st k out h
    rcases Trial.orElse_eq_matched_iff.mp h with hstop | ⟨left, -, h⟩
    · exact ⟨st, hrefl _, hstop⟩
    · cases h
  | succ times ih =>
    intro st k out h
    rcases Trial.orElse_eq_matched_iff.mp h with hstop | ⟨left, -, hmore⟩
    · exact ⟨st, hrefl _, hstop⟩
    dsimp only at hmore
    split at hmore
    · cases hmore
    · obtain ⟨next, hnext, hrest⟩ := hm _ _ out hmore
      obtain ⟨mid, hmid, hout⟩ := ih _ next k out hrest
      exact ⟨mid, htrans _ _ _ hnext hmid, hout⟩

theorem Keeps.exactlyFirst (hm : Keeps R m) {times : Nat} {st out : MatchState}
    (h : exactlyFirst m times st = .matched out) : R st.position out.position := by
  induction times generalizing st with
  | zero =>
    obtain rfl : st = out := Trial.matched.inj h
    exact hrefl _
  | succ times ih =>
    obtain ⟨next, hnext, hrest⟩ := Trial.andThen_eq_matched_iff.mp h
    exact htrans _ _ _ (hm.first hnext) (ih hrest)

theorem Keeps.possessively (hm : Keeps R m) (times : Nat) (last : Option Nat) (st : MatchState) :
    R st.position (possessively m times last st).position := by
  induction times generalizing last st with
  | zero => exact hrefl _
  | succ times ih =>
    rw [Matcher.possessively]
    split
    · exact hrefl _
    split
    · next next hnext => exact htrans _ _ _ (hm.first hnext) (ih _ next)
    · exact hrefl _

/-- **A repetition keeps what its body keeps**, in whichever order it tries its counts. -/
theorem Keeps.loop (hm : Keeps R m) (size least : Nat) (most : Option Nat) (greed : Greed) :
    Keeps R (loop whole m size least most greed) := by
  intro st k out h
  cases greed with
  | greedy =>
    obtain ⟨start, hstart, hrest⟩ := hm.exactly hrefl htrans least st _ out h
    obtain ⟨mid, hmid, hout⟩ := hm.greedy hrefl htrans _ _ start k out hrest
    exact ⟨mid, htrans _ _ _ hstart hmid, hout⟩
  | lazy =>
    obtain ⟨start, hstart, hrest⟩ := hm.exactly hrefl htrans least st _ out h
    obtain ⟨mid, hmid, hout⟩ := hm.lazily hrefl htrans _ _ start k out hrest
    exact ⟨mid, htrans _ _ _ hstart hmid, hout⟩
  | possessive =>
    obtain ⟨start, hstart, hrest⟩ := Trial.andThen_eq_matched_iff.mp h
    exact ⟨_, htrans _ _ _ (hm.exactlyFirst hrefl htrans hstart)
      (hm.possessively hrefl htrans _ _ start), hrest⟩

end

/-- **A look at another place puts the position back.** -/
theorem exists_of_look (hrefl : ∀ a, R a a) {st out : MatchState} {k : Continuation}
    {negated : Bool} {found : Option Trial} (h : look whole negated st found k = .matched out) :
    ∃ mid : MatchState, R st.position mid.position ∧ k mid = .matched out := by
  have hback {marks : Marks} (hout : k ⟨st.position, marks⟩ = .matched out) :
      ∃ mid : MatchState, R st.position mid.position ∧ k mid = .matched out :=
    ⟨⟨st.position, marks⟩, hrefl _, hout⟩
  unfold look at h
  split at h
  · exact hback h
  · cases h
  · cases h
  · exact hback h
  · cases h
  · exact hback h

end Repetition

end Matcher

/-! ### The order of positions -/

/-- **How a position can follow another one in a text**: it is not before it, and it is not outside
of the text if the other one is not. -/
structure Precedes (s : Array Char) (a b : Nat) : Prop where
  le : a ≤ b
  le_size : a ≤ s.size → b ≤ s.size

variable {s : Array Char}

theorem Precedes.refl (a : Nat) : Precedes s a a :=
  ⟨Nat.le_refl _, id⟩

theorem Precedes.trans {a b c : Nat} (hab : Precedes s a b) (hbc : Precedes s b c) :
    Precedes s a c :=
  ⟨Nat.le_trans hab.le hbc.le, fun h => hbc.le_size (hab.le_size h)⟩

/-- A character that is accepted stands in the text. -/
theorem Precedes.of_any {position : Nat} {accepts : Char → Bool}
    (h : (s[position]?).any accepts = true) : Precedes s position (position + 1) := by
  refine ⟨Nat.le_succ _, fun _ => ?_⟩
  obtain ⟨c, hc, -⟩ := Option.any_eq_true _ _ |>.mp h
  exact (Array.getElem?_eq_some_iff.mp hc).1

/-- Characters can agree only where there are characters. -/
theorem add_le_size_of_agree {mode : Mode} {a b length : Nat} (hb : b ≤ s.size)
    (h : agree s mode a b length = true) : b + length ≤ s.size := by
  induction length generalizing a b with
  | zero => exact hb
  | succ length ih =>
    rw [agree, Bool.and_eq_true] at h
    obtain ⟨hhere, hrest⟩ := h
    split at hhere
    · next y _ hy =>
      have hlt : b < s.size := (Array.getElem?_eq_some_iff.mp hy).1
      have := ih hlt hrest
      omega
    · cases hhere

/-! ### Trees -/

namespace Node

/-- **Every tree moves forward**: what it hands on lies behind the state it began with, and inside
of the text if that state did. -/
theorem keeps_run (n : Node) (whole : Bool) : Matcher.Keeps (Precedes s) (n.run s whole) := by
  have hrefl : ∀ a, Precedes s a a := Precedes.refl
  have htrans : ∀ a b c, Precedes s a b → Precedes s b c → Precedes s a c :=
    fun _ _ _ => Precedes.trans
  induction n generalizing whole with
  | empty =>
    intro st k out h
    exact ⟨st, hrefl _, h⟩
  | one test mode =>
    intro st k out h
    rw [run] at h
    split at h
    · next hany => exact ⟨_, Precedes.of_any hany, h⟩
    · cases h
  | anchor a =>
    intro st k out h
    rw [run] at h
    split at h
    · exact ⟨st, hrefl _, h⟩
    · cases h
  | seq a b iha ihb =>
    intro st k out h
    obtain ⟨mid, hmid, hrest⟩ := iha whole st _ out h
    obtain ⟨stop, hstop, hout⟩ := ihb whole mid k out hrest
    exact ⟨stop, hmid.trans hstop, hout⟩
  | alt a b iha ihb => exact (iha whole).either (ihb whole)
  | group number body ih =>
    intro st k out h
    cases number with
    | none => exact ih whole st k out h
    | some g =>
      obtain ⟨mid, hmid, hout⟩ := ih whole (st.enter g) _ out h
      exact ⟨mid.leave g, hmid, hout⟩
  | again number mode =>
    intro st k out h
    rw [run] at h
    split at h
    · next a b hspan =>
      split at h
      · next hagree =>
        refine ⟨_, ?_, h⟩
        exact ⟨Nat.le_add_right _ _, fun hst => add_le_size_of_agree hst hagree⟩
      · cases h
    · cases h
  | given number yes no ihyes ihno =>
    intro st k out h
    rw [run] at h
    split at h
    · exact ihyes whole st k out h
    · exact ihno whole st k out h
  | loop least most greed body ih =>
    intro st k out h
    rw [run] at h
    split at h
    · exact Matcher.keeps_unitLoop hrefl htrans (fun i hi => Precedes.of_any hi) _ _ _ _ st k out h
    · exact (ih _).loop hrefl htrans s.size least most greed st k out h
  | atomic body ih =>
    intro st k out h
    obtain ⟨inside, hinside, hout⟩ := Trial.andThen_eq_matched_iff.mp h
    exact ⟨inside, (ih whole).first hinside, hout⟩
  | ahead negated body ih =>
    intro st k out h
    exact Matcher.exists_of_look hrefl h
  | behind negated least most body ih =>
    intro st k out h
    exact Matcher.exists_of_look hrefl h

end Node

end Substitution
