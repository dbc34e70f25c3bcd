import Substitution.Options
import Substitution.Substitute
import Substitution.Proofs.Except
import Substitution.Proofs.Pattern.Spans

/-!
# A substitution is a splice

A source with matches in it is a row of gaps with the matches in between. Substituting keeps the
gaps and puts a replacement in the place of each match: `Substitution.substituteText_splices`. The
gaps are read off the source and the matches (`Substitution.Match.gaps`), before any template is
known, and each replacement is made of the captures of its own match alone.

That the gaps and the matches together are the source is where the order of the matches is needed
(`Substitution.Pattern.spaced_matchesIn`): a match that began before the end of the one in front of
it would be written twice. A search that breaks off leaves no text behind.

## The loop and its invariant

`Substitution.splice` walks along the matches with a cursor and what is left of the source behind
it. The invariant is that what is left is the source without its first `cursor` characters, and it
holds from one match to the next because no match ends before the cursor.
-/

namespace Substitution

/-! ### Gaps -/

/-- The first of the gaps, then a piece and the next gap, and so on. -/
def weave : (gaps pieces : List Text) → Text
  | [], _ => []
  | gap :: _, [] => gap
  | gap :: gaps, piece :: pieces => gap ++ piece ++ weave gaps pieces

namespace Match

/-- The part of a source that a match spans. -/
def textIn (source : Text) (m : Match) : Text :=
  Text.slice source m.start m.stop

/-- What stands in a source, from the position `cursor` on, before, between and after the matches.
-/
def gaps (source : Text) : (cursor : Nat) → List Match → List Text
  | cursor, [] => [source.drop cursor]
  | cursor, m :: rest => Text.slice source cursor m.start :: gaps source m.stop rest

theorem length_gaps (source : Text) (cursor : Nat) (found : List Match) :
    (gaps source cursor found).length = found.length + 1 := by
  induction found generalizing cursor with
  | nil => rfl
  | cons m rest ih => rw [gaps, List.length_cons, ih, List.length_cons]

end Match

theorem Text.slice_append_drop (t : Text) {start stop : Nat} (h : start ≤ stop) :
    t.slice start stop ++ t.drop stop = t.drop start := by
  have hdrop : t.drop stop = (t.drop start).drop (stop - start) := by
    rw [List.drop_drop, Nat.add_sub_cancel' h]
  rw [Text.slice, List.drop_take, hdrop, List.take_append_drop]

/-- **Nothing is lost and nothing is written twice**: the gaps and the matches that follow one
another are what the source has from the cursor on. -/
theorem weave_gaps_textIn (source : Text) {cursor : Nat} {found : List Match}
    (h : Match.Spaced source.length cursor found) :
    weave (Match.gaps source cursor found) (found.map (Match.textIn source)) =
      source.drop cursor := by
  induction found generalizing cursor with
  | nil => rfl
  | cons m rest ih =>
    obtain ⟨hstart, hstop, -, hrest⟩ := h
    rw [Match.gaps, List.map_cons, weave, ih hrest, Match.textIn, List.append_assoc,
      source.slice_append_drop hstop, source.slice_append_drop hstart]

/-! ### The loop -/

/-- **The invariant of the loop**: what is left of the source is what stands behind the cursor, so
the loop weaves the replacements into the gaps from there on. -/
theorem splice_drop (t : Template) (source : Text) {cursor : Nat} {found : List Match}
    (h : Match.Spaced source.length cursor found) :
    splice t cursor (source.drop cursor) found =
      (found.mapM fun m => t.render m.captures).map (weave (Match.gaps source cursor found)) := by
  induction found generalizing cursor with
  | nil => rfl
  | cons m rest ih =>
    obtain ⟨hstart, hstop, -, hrest⟩ := h
    -- The cursor moves to the end of the match, and what is left moves with it.
    have hleft : (source.drop cursor).drop (m.stop - cursor) = source.drop m.stop := by
      rw [List.drop_drop, Nat.add_sub_cancel' (Nat.le_trans hstart hstop)]
    have hgap : (source.drop cursor).take (m.start - cursor) = source.slice cursor m.start := by
      rw [Text.slice, List.drop_take]
    rw [splice, hleft, hgap, ih hrest, List.mapM_cons]
    cases t.render m.captures with
    | error e => rfl
    | ok replacement =>
      cases (rest.mapM fun m => t.render m.captures) <;> rfl

/-- What is replaced is the whole list of matches, or what it begins with. -/
theorem found_replacedScan (all : Bool) (p : Pattern) (source : Text) :
    (replacedScan all p source).found =
      if all then p.matchesIn source else (p.matchesIn source).take 1 := by
  cases all with
  | true => rfl
  | false => exact p.found_scanFirst source

/-- The search for the first match breaks off only where no match has been found. -/
theorem fault_replacedScan (all : Bool) (p : Pattern) (source : Text) :
    (replacedScan all p source).fault =
      if all ∨ p.matchesIn source = [] then (p.scan source).fault else none := by
  cases all with
  | true => rfl
  | false =>
    simp only [Bool.false_eq_true, false_or]
    exact p.fault_scanFirst source

theorem spaced_replacedScan (all : Bool) (p : Pattern) (source : Text) :
    Match.Spaced source.length 0 (replacedScan all p source).found := by
  rw [found_replacedScan]
  split
  · exact p.spaced_matchesIn source
  · exact (p.spaced_matchesIn source).take 1

/-- **A substitution renders each of its matches by itself** and weaves what comes out into the
gaps, unless its search breaks off. -/
theorem substitute_eq (all : Bool) (source : Text) (p : Pattern) (t : Template) :
    substitute all source p t =
      ((replacedScan all p source).found.mapM fun m => t.render m.captures).mapError .reference
        >>= fun replacements => match (replacedScan all p source).fault with
        | some e => .error (.search e)
        | none => .ok ⟨weave (Match.gaps source 0 (replacedScan all p source).found) replacements,
            (replacedScan all p source).found.length⟩ := by
  have hsplice := splice_drop t source (spaced_replacedScan all p source)
  rw [List.drop_zero] at hsplice
  rw [substitute, hsplice]
  cases (replacedScan all p source).found.mapM fun m => t.render m.captures <;> rfl

/-- It succeeds when its search does not break off and each of its matches can be rendered. -/
theorem substitute_eq_ok_iff {all : Bool} {source : Text} {p : Pattern} {t : Template}
    {r : Replaced} :
    substitute all source p t = .ok r ↔
      (replacedScan all p source).fault = none ∧
      ∃ replacements : List Text,
        (replacedScan all p source).found.map (fun m => t.render m.captures) =
          replacements.map .ok ∧
        r = ⟨weave (Match.gaps source 0 (replacedScan all p source).found) replacements,
          (replacedScan all p source).found.length⟩ := by
  rw [substitute_eq, Except.bind_eq_ok_iff]
  simp only [Except.mapError_eq_ok_iff, Except.mapM_eq_ok_iff]
  cases (replacedScan all p source).fault with
  | none => simp only [Except.ok.injEq, true_and, eq_comm (a := r)]
  | some e => simp

/-! ### Patterns and templates as texts -/

/-- The template that is meant by a text or given compiled. -/
def Template.given : Text ⊕ Template → Except Template.Error Template
  | .inl text => Template.compile text
  | .inr t => .ok t

/-- The pattern that is meant by a text under the given flags, or given compiled. -/
def Pattern.given (flags : Flags) : Text ⊕ Pattern → Except PatternError Pattern
  | .inl text => Pattern.compile text flags
  | .inr p => .ok p

/-- **The three stages of a substitution**: the template, the pattern, the matches. -/
theorem substituteGiven_eq (all : Bool) (flags : Flags) (source : Text) (pattern : Text ⊕ Pattern)
    (template : Text ⊕ Template) :
    substituteGiven all flags source pattern template =
      (Template.given template).mapError .template >>= fun t =>
      (Pattern.given flags pattern).mapError .pattern >>= fun p =>
      substitute all source p t := by
  cases pattern <;> cases template <;> rfl

theorem substituteGiven_eq_ok_iff {all : Bool} {flags : Flags} {source : Text}
    {pattern : Text ⊕ Pattern} {template : Text ⊕ Template} {r : Replaced} :
    substituteGiven all flags source pattern template = .ok r ↔
      ∃ t p, Template.given template = .ok t ∧ Pattern.given flags pattern = .ok p ∧
        substitute all source p t = .ok r := by
  simp only [substituteGiven_eq, Except.bind_eq_ok_iff, Except.mapError_eq_ok_iff, exists_and_left]

/-- **The splicing law.** A pattern cuts every source into gaps and matches, all of its matches or
only the first one, and the gaps with the matches in between are the source. Whatever the template,
the substitution succeeds exactly when the search does not break off and the template can be read
and can be rendered on the captures of each of these matches; its result is then the same gaps with
what was rendered in between, and its count is the number of these matches. -/
theorem substituteText_splices (o : Options) (source pattern : Text) (p : Pattern)
    (hp : Pattern.compile pattern o.flags = .ok p) :
    ∃ (found : List Match) (gaps : List Text),
      found = (if o.all then p.matchesIn source else (p.matchesIn source).take 1) ∧
      gaps = Match.gaps source 0 found ∧
      gaps.length = found.length + 1 ∧
      source = weave gaps (found.map (Match.textIn source)) ∧
      ∀ (template : Text ⊕ Template) (r : Replaced),
        substituteText o.all o.flags source pattern template = .ok r ↔
          (replacedScan o.all p source).fault = none ∧
          ∃ (t : Template) (replacements : List Text),
            Template.given template = .ok t ∧
            found.map (fun m => t.render m.captures) = replacements.map .ok ∧
            r = ⟨weave gaps replacements, found.length⟩ := by
  refine ⟨(replacedScan o.all p source).found, _, found_replacedScan o.all p source, rfl,
    Match.length_gaps _ _ _, ?_, ?_⟩
  · exact (weave_gaps_textIn source (spaced_replacedScan o.all p source)).symm
  · intro template r
    rw [substituteText, substituteGiven_eq_ok_iff]
    constructor
    · rintro ⟨t, p', ht, hp', h⟩
      obtain rfl : p = p' := Except.ok.inj (hp.symm.trans hp')
      obtain ⟨hfault, replacements, hrender, hr⟩ := substitute_eq_ok_iff.mp h
      exact ⟨hfault, t, replacements, ht, hrender, hr⟩
    · rintro ⟨hfault, t, replacements, ht, hrender, hr⟩
      exact ⟨t, p, ht, hp, substitute_eq_ok_iff.mpr ⟨hfault, replacements, hrender, hr⟩⟩

/-- Empty matches in front of and behind a longer one, each replaced by its own capture. -/
theorem substituteText_splices_star :
    (∃ p, Pattern.compile "(a*)".toList 0 = .ok p) ∧
      substituteText true 0 "baac".toList "(a*)".toList (.inl "<$1>".toList) =
        .ok ⟨"<>b<aa><>c<>".toList, 4⟩ := by
  have hp : Pattern.compile "(a*)".toList 0 = .ok ⟨"(a*)".toList, 1,
      .group (some 1) (.loop 0 none .greedy (.one (.code 97 false) ⟨false, true⟩)), true⟩ := rfl
  refine ⟨⟨_, hp⟩, ?_⟩
  obtain ⟨found, gaps, rfl, rfl, -, -, h⟩ :=
    substituteText_splices {} "baac".toList "(a*)".toList _ hp
  refine (h _ _).mpr ⟨rfl, ⟨[.literal "<".toList, .reference 0, .literal ">".toList]⟩,
    ["<>".toList, "<aa>".toList, "<>".toList, "<>".toList], ?_, ?_, ?_⟩
  · rfl
  · rfl
  · rfl

end Substitution
