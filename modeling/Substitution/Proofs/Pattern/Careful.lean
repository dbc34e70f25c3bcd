import Substitution.Proofs.Pattern.Marks
import Substitution.Proofs.Pattern.Spans

/-!
# Matchers that are careful about marks

What comes of matching depends on what a way that has been given up leaves behind. Let the groups in
a part of a tree be those from `lo` up to `hi`. Outside of repetitions no more marks than those of
the groups in front have been made when the part is reached. If it fails, then the marks that it has
made are behind those, and taking back what is new takes all of them away. What may remain changed
among the first marks are ends of groups that are still open, and these ends will be marked again or
taken away. In a repetition more marks can have been made before, but there all marks are taken back
as they were.

So one statement serves both cases, `Substitution.Matcher.Careful`. It says what a matcher hands on,
and that it leaves the beginnings of the groups in front alone, or as many of them as what comes
after the matcher does. It is proved here for every way of putting matchers together, and the one
that needs more than its parts is the possessive repetition (`Substitution.Matcher.Careful.loop`).
-/

namespace Substitution

/-! ### Careful matchers -/

namespace Matcher

open MatchState (Reaches)

/-- **A matcher for a part of a tree with the groups from `lo` up to `hi`** hands on only states
that the part can reach. If what comes after it leaves the first `bound` groups alone when it fails,
then so does the matcher with those among them that are in front of it. Outside of repetitions, no
marks have been made but those of the groups in front. -/
def Careful (whole : Bool) (lo hi : Nat) (m : Matcher) : Prop :=
  ∀ (opened : List Nat) (bound : Nat) (st : MatchState) (k : Continuation)
    (P : MatchState → Prop),
    (whole = false → st.marks.length ≤ 2 * lo ∧ hi ≤ bound) → st.marks.Ordered opened →
    (∀ next, st.Reaches lo hi opened next → (k next).Settles opened P bound next.marks) →
    (m st k).Settles opened P (min bound lo) st.marks

variable {whole : Bool} {lo mid hi : Nat} {m a b : Matcher}

theorem Careful.mono {lo' hi' : Nat} (hm : Careful whole lo hi m) (hlo : lo' ≤ lo)
    (hhi : hi ≤ hi') : Careful whole lo' hi' m := by
  intro opened bound st k P hfresh hordered hk
  have h := hm opened bound st k P
    (fun hwhole => by have := hfresh hwhole; omega) hordered fun next hnext =>
      hk next (hnext.mono hlo hhi)
  exact h.of_le (by omega)

/-- A test that goes on at the same place or further on, or fails at once. -/
theorem careful_of_test
    (h : ∀ st k, (∃ position, st.position ≤ position ∧ m st k = k ⟨position, st.marks⟩) ∨
      m st k = .failed st.marks) : Careful whole lo hi m := by
  intro opened bound st k P _ hordered hk
  rcases h st k with ⟨position, hle, heq⟩ | heq
  · rw [heq]
    exact (hk ⟨position, st.marks⟩ ⟨hle, .refl hordered⟩).of_le (Nat.min_le_left _ _)
  · rw [heq]
    exact (Marks.Resumes.refl hordered).spares

/-- One part behind another. -/
theorem Careful.seq (ha : Careful whole lo mid a) (hb : Careful whole mid hi b) (hlo : lo ≤ mid)
    (hhi : mid ≤ hi) : Careful whole lo hi fun st k => a st fun st => b st k := by
  intro opened bound st k P hfresh hordered hk
  have h := ha opened (min bound mid) st (fun st => b st k) P
    (fun hwhole => by have := hfresh hwhole; omega) hordered fun next hnext => ?_
  · exact h.of_le (by omega)
  · refine hb opened bound next k P (fun hwhole => ?_) hnext.advances.ordered fun last hlast =>
      hk last ((hnext.mono (Nat.le_refl lo) hhi).trans (hlast.mono hlo (Nat.le_refl hi)))
    have := hfresh hwhole
    have := hnext.advances.length_le
    omega

/-- Two parts to choose from. -/
theorem Careful.either (ha : Careful whole lo mid a) (hb : Careful whole mid hi b) (hlo : lo ≤ mid)
    (hhi : mid ≤ hi) : Careful whole lo hi (either whole a b) := by
  intro opened bound st k P hfresh hordered hk
  have hback {left : Marks} (hleft : st.marks.Spares opened (min bound lo) left) :
      st.marks.Resumes opened (Marks.takeBack whole st.marks left) :=
    hleft.resumes_takeBack hordered fun hwhole => by have := hfresh hwhole; omega
  refine (ha.mono (Nat.le_refl lo) hhi opened bound st k P hfresh hordered hk).orElse
    fun left hleft => ?_
  have hresumes := hback hleft
  have hsecond := hb.mono hlo (Nat.le_refl hi) opened bound
    ⟨st.position, Marks.takeBack whole st.marks left⟩ k P
    (fun hwhole => hresumes.length_eq.symm ▸ hfresh hwhole) hresumes.ordered
    fun next hnext => hk next ((MatchState.reaches_of_resumes hresumes).trans hnext)
  refine (hsecond.imp fun _ hleft => hleft.of_resumes hresumes).orElse fun left hleft => ?_
  exact (hback hleft).spares

/-- **A group**: its body is gone through while the group is open, and when it is closed it ends
where it begins or later. -/
theorem Careful.group (hm : Careful whole (lo + 1) hi m) (hhi : lo + 1 ≤ hi) :
    Careful whole lo hi fun st k => m (st.enter (lo + 1)) fun st => k (st.leave (lo + 1)) := by
  intro opened bound st k P hfresh hordered hk
  have hmark (g : Nat) : (st.enter (lo + 1)).marks.mark g =
      if g = 2 * lo then some st.position else st.marks.mark g := Marks.mark_put ..
  have hlength : (st.enter (lo + 1)).marks.length = max st.marks.length (2 * lo + 1) :=
    Marks.length_put ..
  have henter : (st.enter (lo + 1)).marks.Ordered (lo :: opened) := by
    intro g hg x y hx hy
    have hne : g ≠ lo := fun heq => hg (heq ▸ List.mem_cons_self)
    rw [hmark, if_neg (by omega)] at hx hy
    exact hordered g (mt (List.mem_cons_of_mem lo) hg) x y hx hy
  have hbody := hm (lo :: opened) bound (st.enter (lo + 1)) (fun st => k (st.leave (lo + 1))) P
    (fun hwhole => by have := hfresh hwhole; omega) henter fun next hnext => ?_
  · refine hbody.imp fun left hleft => hleft.mono (by omega) (fun g hg => ?_) fun g hmem hnot => ?_
    · rw [hmark, if_neg (by omega)]
    · rcases List.mem_cons.mp hmem with rfl | hmem
      · omega
      · exact absurd hmem hnot
  · obtain ⟨hposition, hbegins, hle, hge, hnext⟩ := hnext
    have hleave (g : Nat) : (next.leave (lo + 1)).marks.mark g =
        if g = 2 * lo + 1 then some next.position else next.marks.mark g := Marks.mark_put ..
    have hlength' : (next.leave (lo + 1)).marks.length = max next.marks.length (2 * lo + 2) :=
      Marks.length_put ..
    have hreaches : st.Reaches lo hi opened (next.leave (lo + 1)) := by
      refine ⟨hposition, fun g hg => ?_, by omega, by omega, fun g hg x y hx hy => ?_⟩
      · rw [hleave, if_neg (by omega), hbegins g (by omega), hmark, if_neg (by omega)]
      · rw [hleave] at hx hy
        rw [if_neg (by omega)] at hx
        by_cases hgroup : g = lo
        · -- The group itself: it begins where it was entered, and ends here.
          subst hgroup
          rw [hbegins g (by omega), hmark, if_pos rfl] at hx
          rw [if_pos rfl] at hy
          cases hx
          cases hy
          exact hposition
        · rw [if_neg (by omega)] at hy
          exact hnext g (List.not_mem_cons_of_ne_of_not_mem hgroup hg) x y hx hy
    refine (hk _ hreaches).imp fun left hleft => hleft.mono (by omega) (fun g hg => ?_)
      fun g hmem hnot => absurd (List.mem_cons_of_mem lo hmem) hnot
    rw [hleave, if_neg (by omega)]

/-- A part whose first way is the only one. -/
theorem Careful.atomic (hm : Careful whole lo hi m) :
    Careful whole lo hi fun st k => (m st .matched).andThen k := by
  intro opened bound st k P hfresh hordered hk
  have hfirst := hm opened bound st .matched (st.Reaches lo hi opened) hfresh hordered
    fun next hnext => hnext
  refine hfirst.andThen fun out hout => ?_
  exact ((hk out hout).of_le (Nat.min_le_left _ _)).of_reaches hout (Nat.min_le_right _ _)

/-- A look from a place that is not behind the one at hand. -/
theorem Careful.look (hm : Careful whole lo hi m) (hle : lo ≤ hi) (negated : Bool)
    (from? : MatchState → Option Nat) :
    Careful whole lo hi fun st k =>
      look whole negated st ((from? st).map fun place => m ⟨place, st.marks⟩ .matched) k := by
  intro opened bound st k P hfresh hordered hk
  have hstays {marks : Marks} (h : st.marks.Advances lo hi opened marks) :
      (k ⟨st.position, marks⟩).Settles opened P (min bound lo) st.marks := by
    have hreaches : st.Reaches lo hi opened ⟨st.position, marks⟩ := ⟨Nat.le_refl _, h⟩
    exact ((hk _ hreaches).of_le (Nat.min_le_left _ _)).of_reaches hreaches (Nat.min_le_right _ _)
  have hfails : st.marks.Spares opened (min bound lo) st.marks :=
    (Marks.Resumes.refl hordered).spares
  dsimp only
  cases from? st with
  | none =>
    cases negated with
    | false => exact hfails
    | true => exact hstays (.refl hordered)
  | some place =>
    rw [Option.map_some]
    have hfirst := hm opened bound ⟨place, st.marks⟩ .matched
      (fun out => st.marks.Advances lo hi opened out.marks) hfresh hordered
      fun next hnext => hnext.advances
    cases htrial : m ⟨place, st.marks⟩ .matched with
    | matched inside =>
      rw [htrial] at hfirst
      cases negated with
      | false => exact hstays hfirst
      | true => exact hfirst.spares (Nat.min_le_right _ _)
    | failed left =>
      rw [htrial] at hfirst
      cases negated with
      | false => exact hfirst
      | true =>
        have hspares : st.marks.Spares opened (min bound lo) left := hfirst
        exact hstays (hspares.resumes_takeBack hordered
          fun hwhole => by have := hfresh hwhole; omega).advances

/-! ### Careful repetitions -/

/-- Going on at each of some places in turn, none of them in front of the one at hand. -/
theorem settles_atEach {opened : List Nat} {bound : Nat} {st : MatchState} {k : Continuation}
    {P : MatchState → Prop} (hfresh : whole = false → st.marks.length ≤ 2 * lo ∧ hi ≤ bound)
    (hle : lo ≤ hi) (hordered : st.marks.Ordered opened)
    (hk : ∀ next, st.Reaches lo hi opened next → (k next).Settles opened P bound next.marks)
    {places : List Nat} (hplaces : ∀ place ∈ places, st.position ≤ place) {marks : Marks}
    (hmarks : st.marks.Resumes opened marks) :
    (atEach whole st.marks k places marks).Settles opened P (min bound lo) st.marks := by
  induction places generalizing marks with
  | nil => exact hmarks.spares
  | cons place places ih =>
    obtain ⟨hplace, hplaces⟩ := List.forall_mem_cons.mp hplaces
    have hhere := (hk ⟨place, marks⟩ ⟨hplace, hmarks.advances⟩).of_le (Nat.min_le_left bound lo)
    refine (hhere.imp fun _ hleft => hleft.of_resumes hmarks).orElse fun left hleft => ?_
    exact ih hplaces (hleft.resumes_takeBack hordered
      fun hwhole => by have := hfresh hwhole; omega)

theorem careful_unitLoop (hle : lo ≤ hi) (passes : Nat → Bool) (size least : Nat)
    (most : Option Nat) (greed : Greed) :
    Careful whole lo hi (unitLoop passes whole size least most greed) := by
  intro opened bound st k P hfresh hordered hk
  have hplaces : ∀ place ∈ (reach passes (most.getD (size - st.position)) st.position).drop least,
      st.position ≤ place := fun place hplace =>
    mem_reach Nat.le_refl (fun _ _ _ => Nat.le_trans) (fun _ _ => Nat.le_succ _)
      (List.mem_of_mem_drop hplace)
  have hresumes := Marks.Resumes.refl hordered
  cases greed with
  | greedy =>
    exact settles_atEach hfresh hle hordered hk
      (fun place hplace => hplaces place (List.mem_reverse.mp hplace)) hresumes
  | lazy => exact settles_atEach hfresh hle hordered hk hplaces hresumes
  | possessive =>
    dsimp only [unitLoop]
    split
    · next place hlast =>
      have hplace := hplaces place (List.mem_of_getLast? hlast)
      exact (hk ⟨place, st.marks⟩ ⟨hplace, hresumes.advances⟩).of_le (Nat.min_le_left _ _)
    · exact hresumes.spares

section Repetition

variable {opened : List Nat} {bound : Nat} {start : MatchState} {k : Continuation}
  {P : MatchState → Prop}

/-- A body that takes all marks back, somewhere in a repetition that began at `start`. -/
theorem Careful.settles_body (hm : Careful true lo hi m) {st : MatchState}
    (hst : start.Reaches lo hi opened st) (hle : bound ≤ lo)
    (hk : ∀ next, start.Reaches lo hi opened next → (k next).Settles opened P bound next.marks) :
    (m st k).Settles opened P bound st.marks := by
  have h := hm opened bound st k P nofun hst.advances.ordered fun next hnext =>
    hk next (hst.trans hnext)
  exact h.of_le (by omega)

theorem Careful.settles_exactly (hm : Careful true lo hi m) (hle : bound ≤ lo) (times : Nat)
    (hk : ∀ next, start.Reaches lo hi opened next → (k next).Settles opened P bound next.marks)
    (st : MatchState) (hst : start.Reaches lo hi opened st) :
    (exactly m times st k).Settles opened P bound st.marks := by
  induction times generalizing st with
  | zero => exact hk st hst
  | succ times ih => exact hm.settles_body hst hle ih

theorem Careful.settles_greedy (hm : Careful true lo hi m) (hle : bound ≤ lo)
    (hk : ∀ next, start.Reaches lo hi opened next → (k next).Settles opened P bound next.marks)
    (times : Nat) (last : Option Nat) (st : MatchState) (hst : start.Reaches lo hi opened st) :
    (greedy m times last st k).Settles opened P bound st.marks := by
  induction times generalizing last st with
  | zero => exact hk st hst
  | succ times ih =>
    rw [Matcher.greedy]
    split
    · exact hk st hst
    · exact (hm.settles_body hst hle (ih _)).orElse fun _ _ => hk st hst

/-- Here what is taken back depends on where the repetition stands, and what comes after it has to
leave alone all that has been marked. -/
theorem Careful.settles_lazily (hm : Careful true lo hi m)
    (hfresh : whole = false → start.marks.length ≤ 2 * hi ∧ hi ≤ bound)
    (hk : ∀ next, start.Reaches lo hi opened next → (k next).Settles opened P bound next.marks)
    (times : Nat) (last : Option Nat) (st : MatchState) (hst : start.Reaches lo hi opened st) :
    (lazily whole m times last st k).Settles opened P (min bound lo) st.marks := by
  have hback {st : MatchState} (hst : start.Reaches lo hi opened st) {left : Marks}
      (hleft : st.marks.Spares opened bound left) :
      st.marks.Resumes opened (Marks.takeBack whole st.marks left) := by
    refine hleft.resumes_takeBack hst.advances.ordered fun hwhole => ?_
    have := hfresh hwhole
    have := hst.advances.length_le
    omega
  -- What comes after the repetition is tried first, and it leaves more alone than is asked for.
  have hstop {st : MatchState} (hst : start.Reaches lo hi opened st) {other : Marks → Trial}
      (hother : ∀ left, st.marks.Resumes opened (Marks.takeBack whole st.marks left) →
        (other left).Settles opened P (min bound lo) st.marks) :
      ((k st).orElse other).Settles opened P (min bound lo) st.marks := by
    have h := hk st hst
    cases htrial : k st with
    | matched out =>
      rw [htrial] at h
      exact h
    | failed left =>
      rw [htrial] at h
      exact hother left (hback hst h)
  induction times generalizing last st with
  | zero => exact hstop hst fun left hresumes => hresumes.spares
  | succ times ih =>
    refine hstop hst fun left hresumes => ?_
    dsimp only
    split
    · exact hresumes.spares
    · have hagain := hm.settles_body (hst.trans (MatchState.reaches_of_resumes hresumes))
        (Nat.min_le_right bound lo) (ih (some st.position))
      exact hagain.imp fun _ hleft => hleft.of_resumes hresumes

/-- A body that is repeated in its first way only. Outside of other repetitions it must have no
groups. -/
theorem Careful.settles_first (hm : Careful whole lo hi m)
    (hfresh : whole = false → start.marks.length ≤ 2 * lo ∧ hi ≤ lo) (bound : Nat)
    (st : MatchState) (hst : start.Reaches lo hi opened st) :
    (m.first st).Settles opened (st.Reaches lo hi opened) (min (max bound hi) lo) st.marks := by
  refine hm opened (max bound hi) st .matched _ (fun hwhole => ?_) hst.advances.ordered
    fun next hnext => hnext
  have := hfresh hwhole
  have := hst.advances.length_le
  omega

theorem Careful.settles_exactlyFirst (hm : Careful whole lo hi m)
    (hfresh : whole = false → start.marks.length ≤ 2 * lo ∧ hi ≤ lo) (times : Nat)
    (st : MatchState) (hst : start.Reaches lo hi opened st) :
    (exactlyFirst m times st).Settles opened (start.Reaches lo hi opened) (min bound lo)
      st.marks := by
  induction times generalizing st with
  | zero => exact hst
  | succ times ih =>
    have hfirst : (m.first st).Settles opened (st.Reaches lo hi opened) (min bound lo) st.marks :=
      (hm.settles_first hfresh bound st hst).of_le (by omega)
    refine hfirst.andThen fun out hout => ?_
    exact (ih out (hst.trans hout)).of_reaches hout (Nat.min_le_right _ _)

theorem Careful.reaches_possessively (hm : Careful whole lo hi m)
    (hfresh : whole = false → start.marks.length ≤ 2 * lo ∧ hi ≤ lo) (times : Nat)
    (last : Option Nat) (st : MatchState) (hst : start.Reaches lo hi opened st) :
    start.Reaches lo hi opened (possessively m times last st) := by
  induction times generalizing last st with
  | zero => exact hst
  | succ times ih =>
    rw [Matcher.possessively]
    split
    · exact hst
    · have hfirst := hm.settles_first hfresh 0 st hst
      split
      · next next hnext =>
        rw [hnext] at hfirst
        exact ih _ next (hst.trans hfirst)
      · exact hst

end Repetition

/-- **Repetition.** A greedy or lazy one has a body that takes all marks back; a possessive one
takes back what the repetition itself does, and outside of other repetitions its body has no
groups. -/
theorem Careful.loop (greed : Greed) (hm : Careful (whole || greed != .possessive) lo hi m)
    (hle : lo ≤ hi) (hpossessive : whole = false → greed = .possessive → hi ≤ lo)
    (size least : Nat) (most : Option Nat) :
    Careful whole lo hi (loop whole m size least most greed) := by
  intro opened bound st k P hfresh hordered hk
  have hst : st.Reaches lo hi opened st := .refl hordered
  have hk' : ∀ next, st.Reaches lo hi opened next →
      (k next).Settles opened P (min bound lo) next.marks :=
    fun next hnext => (hk next hnext).of_le (Nat.min_le_left _ _)
  cases greed with
  | greedy =>
    have hm : Careful true lo hi m := by rwa [Bool.or_comm] at hm
    exact hm.settles_exactly (Nat.min_le_right _ _) least
      (fun next hnext => hm.settles_greedy (Nat.min_le_right _ _) hk' _ none next hnext) st hst
  | lazy =>
    have hm : Careful true lo hi m := by rwa [Bool.or_comm] at hm
    exact hm.settles_exactly (Nat.min_le_right _ _) least
      (fun next hnext => hm.settles_lazily
        (fun hwhole => by have := hfresh hwhole; omega) hk _ none next hnext) st hst
  | possessive =>
    have hm : Careful whole lo hi m := by rwa [Bool.or_comm] at hm
    have hnone : whole = false → st.marks.length ≤ 2 * lo ∧ hi ≤ lo :=
      fun hwhole => ⟨(hfresh hwhole).1, hpossessive hwhole rfl⟩
    refine (hm.settles_exactlyFirst hnone least st hst).andThen fun out hout => ?_
    have hend := hm.reaches_possessively hnone (further least most size out.position) none out hout
    exact (hk' _ hend).of_reaches hend (Nat.min_le_right _ _)

end Matcher

end Substitution
