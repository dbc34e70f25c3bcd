import Substitution.Proofs.Pattern.Steady
import Substitution.Proofs.Pattern.Plain
import Substitution.Proofs.Splicing
import Substitution.Proofs.Template.Writing

/-!
# Plain text is replaced as text

A pattern without special characters and a template in which dollar signs and backslashes are
escaped stand for two texts, and to substitute is to replace the one by the other:
`Substitution.substituteText_plain`. The replacement of texts is defined without patterns, in one
walk over the source (`Substitution.Text.replaceAll`): where the text stands, what replaces it is
written and as many characters are passed over; elsewhere a character is copied.

The walk and the list of matches meet at the first occurrence (`Substitution.Text.cut?`): both copy
what stands before it and go on behind it. The empty text is a case of its own. It stands before
each character and at the end, and a match of it is followed by one that must begin further on.
-/

namespace Substitution

/-! ### Replacement of texts -/

namespace Text

/-- Replaces the occurrences of `s` from left to right by `r`; the first `skip` characters belong to
an occurrence that has been replaced. The text `s` must not be empty. -/
def replaceFrom (s r : Text) : (skip : Nat) → Text → Replaced
  | _, [] => ⟨[], 0⟩
  | skip + 1, _ :: rest => replaceFrom s r skip rest
  | 0, c :: rest =>
    if s <+: c :: rest then
      let others := replaceFrom s r (s.length - 1) rest
      ⟨r ++ others.text, others.count + 1⟩
    else
      let others := replaceFrom s r 0 rest
      ⟨c :: others.text, others.count⟩

/-- **The text with all occurrences of `s` replaced by `r`**, and their number. The occurrences are
taken from left to right and do not overlap; the empty text occurs before each character and at the
end. -/
def replaceAll (s r t : Text) : Replaced :=
  if s = [] then ⟨t.flatMap (fun c => r ++ [c]) ++ r, t.length + 1⟩ else replaceFrom s r 0 t

/-- **The text with the first occurrence of `s` replaced by `r`**, if there is one. -/
def replaceFirst (s r t : Text) : Replaced :=
  match cut? s t with
  | some (before, after) => ⟨before ++ r ++ after, 1⟩
  | none => ⟨t, 0⟩

/-! ### The walk goes from one occurrence to the next -/

theorem replaceFrom_skip (s r : Text) (skip : Nat) (t : Text) :
    replaceFrom s r skip t = replaceFrom s r 0 (t.drop skip) := by
  induction skip generalizing t with
  | zero => rfl
  | succ skip ih =>
    cases t with
    | nil => rfl
    | cons c rest => exact ih rest

/-- **The walk copies what stands before the first occurrence** and goes on behind it. -/
theorem replaceFrom_eq {s : Text} (hs : s ≠ []) (r t : Text) :
    replaceFrom s r 0 t = match cut? s t with
      | some (before, after) =>
        ⟨before ++ r ++ (replaceFrom s r 0 after).text, (replaceFrom s r 0 after).count + 1⟩
      | none => ⟨t, 0⟩ := by
  induction t with
  | nil => rw [cut?, if_neg hs]; rfl
  | cons c rest ih =>
    rw [replaceFrom, cut?]
    split
    · obtain ⟨d, s', rfl⟩ := List.exists_cons_of_ne_nil hs
      rw [replaceFrom_skip]
      rfl
    · rw [ih]
      cases cut? s rest <;> rfl

/-- Where the parts of a text lie that is cut from a position on. -/
theorem cut?_drop {s source before after : Text} {position : Nat}
    (h : cut? s (source.drop position) = some (before, after)) :
    slice source position (position + before.length) = before ∧
      source.drop (position + before.length + s.length) = after ∧
      source.length - position = before.length + s.length + after.length := by
  have hdrop := eq_of_cut? h
  refine ⟨?_, ?_, ?_⟩
  · rw [slice, List.drop_take, hdrop, Nat.add_sub_cancel_left, List.append_assoc,
      List.take_left]
  · rw [Nat.add_assoc, ← List.drop_drop, hdrop, ← List.length_append, List.drop_left]
  · have hlength := congrArg List.length hdrop
    rwa [List.length_drop, List.length_append, List.length_append] at hlength

end Text

/-! ### An escaped text as a template -/

/-- The text with a backslash before each backslash and each dollar sign. -/
def Template.escape (r : Text) : Text :=
  r.flatMap fun c => if c = '\\' ∨ c = '$' then ['\\', c] else [c]

namespace Template

theorem print_literal (r : Text) : print ⟨[.literal r]⟩ = escape r := by
  rw [print, escape, List.flatMap_singleton, Segment.tokens, List.flatMap_map]
  refine List.flatMap_congr fun c _ => ?_
  split <;> rfl

theorem render_literal (r : Text) (captures : List Text) :
    render ⟨[.literal r]⟩ captures = .ok r :=
  congrArg Except.ok (List.append_nil r)

/-- **An escaped text is a template that writes this text.** -/
theorem compile_escape (r : Text) :
    ∃ t, compile (escape r) = .ok t ∧ ∀ captures, t.render captures = .ok r := by
  have hwritable : Writable ⟨[.literal r]⟩ := by
    intro segment hsegment
    obtain rfl := List.mem_singleton.mp hsegment
    trivial
  refine ⟨normal ⟨[.literal r]⟩, ?_, fun captures => ?_⟩
  · rw [← print_literal, compile_print hwritable]
  · rw [render_normal, render_literal]

end Template

/-! ### Matches that are all replaced alike -/

/-- What becomes of a source from the position `cursor` on when all matches are replaced by `r`. -/
def Match.replaceEach (source r : Text) (cursor : Nat) (found : List Match) : Replaced :=
  ⟨weave (gaps source cursor found) (List.replicate found.length r), found.length⟩

theorem Match.replaceEach_cons (source r : Text) (cursor : Nat) (m : Match) (rest : List Match) :
    replaceEach source r cursor (m :: rest) =
      ⟨Text.slice source cursor m.start ++ r ++ (replaceEach source r m.stop rest).text,
        (replaceEach source r m.stop rest).count + 1⟩ :=
  rfl

/-- A template that writes the same for every match replaces them alike. -/
theorem substitute_constant {t : Template} {r : Text} (h : ∀ captures, t.render captures = .ok r)
    {all : Bool} {source : Text} {p : Pattern} (hfault : (replacedScan all p source).fault = none) :
    substitute all source p t =
      .ok (Match.replaceEach source r 0 (replacedScan all p source).found) := by
  refine substitute_eq_ok_iff.mpr ⟨hfault, _, ?_, rfl⟩
  simp only [h, List.map_const', List.map_replicate]

namespace Pattern

variable {s source : Text} {position : Nat}

/-- What a search finds from a position on cuts the source there. -/
theorem search_toArray_plain (h : position ≤ source.length) :
    (plain s).search source.toArray (source.toArray.size - position) false position =
      (Text.cut? s (source.drop position)).map fun cut =>
        .ok ⟨position + cut.1.length, position + cut.1.length + s.length, []⟩ := by
  have hsize : position + (source.toArray.size - position) = source.toArray.size := by
    rw [List.size_toArray]
    omega
  exact search_plain hsize

/-- **Matches and occurrences are the same.** -/
theorem replaceEach_scanFrom (hs : s ≠ []) (r : Text) {limit : Nat} (position : Nat)
    (h : position ≤ source.length) (hlimit : source.length - position < limit) :
    Match.replaceEach source r position
      ((plain s).scanFrom source.toArray limit false position).found =
      Text.replaceFrom s r 0 (source.drop position) := by
  induction limit generalizing position with
  | zero => cases hlimit
  | succ limit ih =>
    rw [scanFrom_succ, search_toArray_plain h, Text.replaceFrom_eq hs]
    cases hcut : Text.cut? s (source.drop position) with
    | none => rfl
    | some cut =>
      obtain ⟨before, after⟩ := cut
      obtain ⟨hbefore, hafter, hlength⟩ := Text.cut?_drop hcut
      have hpos : 0 < s.length := List.length_pos_of_ne_nil hs
      -- No occurrence is empty, so the next one may begin where this one ends.
      have hadvance : (position + before.length + s.length == position + before.length) = false :=
        beq_eq_false_iff_ne.mpr (by omega)
      dsimp only [Option.map_some]
      rw [Match.replaceEach_cons, hbefore, hadvance,
        ih (position + before.length + s.length) (by omega) (by omega), hafter]

/-- The empty text matches in front of each character and at the end. -/
theorem replaceEach_scanFrom_nil (r : Text) {limit : Nat} (position : Nat)
    (h : position ≤ source.length) (hlimit : source.length - position < limit) :
    Match.replaceEach source r position
      ((plain []).scanFrom source.toArray limit true position).found =
      ⟨(source.drop position).flatMap fun c => c :: r, source.length - position⟩ := by
  induction limit generalizing position with
  | zero => cases hlimit
  | succ limit ih =>
    rcases Nat.lt_or_eq_of_le h with hlt | rfl
    · -- The next match is the one behind the next character.
      have hsearch :
          (plain []).search source.toArray (source.toArray.size - position) true position =
            some (.ok ⟨position + 1, position + 1, []⟩) := by
        have hmore : source.toArray.size - position = source.toArray.size - (position + 1) + 1 := by
          rw [List.size_toArray]
          omega
        rw [hmore, search, matchAt_plain_nil, Option.none_or, search_toArray_plain (by omega),
          Text.cut?_eq_of_prefix List.nil_prefix]
        rfl
      have hslice : Text.slice source position (position + 1) = [source[position]] := by
        rw [Text.slice, List.drop_take, List.drop_eq_getElem_cons hlt, Nat.add_sub_cancel_left]
        rfl
      rw [scanFrom_succ, hsearch]
      dsimp only
      rw [beq_self_eq_true, Match.replaceEach_cons, ih (position + 1) (by omega) (by omega), hslice,
        List.drop_eq_getElem_cons hlt, List.flatMap_cons, Replaced.mk.injEq]
      exact ⟨rfl, by dsimp only; omega⟩
    · have hsearch : (plain []).search source.toArray (source.toArray.size - source.length) true
          source.length = none := by
        rw [List.size_toArray, Nat.sub_self, search, matchAt_plain_nil]
      rw [scanFrom_succ, hsearch, Nat.sub_self, List.drop_length]
      exact congrArg (Replaced.mk · 0) List.drop_length

/-- Replacing all matches is replacing all occurrences. -/
theorem replaceEach_matchesIn (s r source : Text) :
    Match.replaceEach source r 0 ((plain s).matchesIn source) = Text.replaceAll s r source := by
  rw [matchesIn, scan, Text.replaceAll]
  split
  · next hs =>
    subst hs
    have hsearch : (plain []).search source.toArray (source.toArray.size - 0) false 0 =
        some (.ok ⟨0, 0, []⟩) := by
      rw [search_toArray_plain (Nat.zero_le _), Text.cut?_eq_of_prefix List.nil_prefix]
      rfl
    -- After the match at the start, what is written before a character is written behind one.
    have hturn (t : Text) :
        r ++ t.flatMap (fun c => c :: r) = t.flatMap (fun c => r ++ [c]) ++ r := by
      induction t with
      | nil => exact List.append_nil r
      | cons c rest ih =>
        simp only [List.flatMap_cons, List.append_assoc, ← ih, List.cons_append, List.nil_append]
    rw [scanFrom_succ, hsearch]
    dsimp only
    rw [beq_self_eq_true, Match.replaceEach_cons,
      replaceEach_scanFrom_nil r 0 (Nat.zero_le _) (by omega), List.drop_zero, ← hturn]
    rfl
  · next hs => exact replaceEach_scanFrom hs r 0 (Nat.zero_le _) (by omega)

/-- Replacing the first match is replacing the first occurrence. -/
theorem replaceEach_scanFirst (s r source : Text) :
    Match.replaceEach source r 0 ((plain s).scanFirst source).found =
      Text.replaceFirst s r source := by
  have hsearch := search_toArray_plain (s := s) (Nat.zero_le source.length)
  rw [scanFirst, scanFrom_succ, Text.replaceFirst, hsearch]
  cases hcut : Text.cut? s (source.drop 0) with
  | none =>
    rw [List.drop_zero] at hcut
    rw [hcut]
    rfl
  | some cut =>
    obtain ⟨before, after⟩ := cut
    obtain ⟨hbefore, hafter, -⟩ := Text.cut?_drop hcut
    rw [List.drop_zero] at hcut
    rw [hcut, Option.map_some]
    dsimp only
    rw [Match.replaceEach_cons, hbefore]
    exact congrArg (fun after => Replaced.mk (before ++ r ++ after) 1) hafter

/-- A plain pattern has no groups, so nothing is wrong with where they end. -/
theorem fault_plain (hs : s.Plain) (all : Bool) (source : Text) :
    (replacedScan all (plain s) source).fault = none := by
  have hsteady : (plain s).root.Steady :=
    Node.steady_of_groupNumbers_eq_nil (groupNumbers_eq (compile_plain hs))
  rw [fault_replacedScan, fault_scan_eq_none (compile_plain hs) hsteady, ite_self]

end Pattern

/-- A substitution by two plain texts replaces what is matched alike. -/
theorem substituteText_escape {s : Text} (hs : s.Plain) (all : Bool) (source r : Text) :
    substituteText all 0 source s (.inl (Template.escape r)) =
      .ok (Match.replaceEach source r 0 (replacedScan all (Pattern.plain s) source).found) := by
  obtain ⟨t, ht, hrender⟩ := Template.compile_escape r
  exact substituteGiven_eq_ok_iff.mpr ⟨t, Pattern.plain s, ht, Pattern.compile_plain hs,
    substitute_constant hrender (Pattern.fault_plain hs all source)⟩

/-- **To substitute plain text is to replace it.** Let no character of `s` be special in a pattern,
and let `r` be any text. With the usual options, to substitute the template that escapes `r` for the
pattern `s` replaces all occurrences of `s` by `r` and counts them; if only the first match is
asked for, it replaces the first occurrence, and counts one at most. -/
theorem substituteText_plain (source s r : Text) (hs : s.Plain) :
    substituteText ({} : Options).all ({} : Options).flags source s (.inl (Template.escape r)) =
        .ok (Text.replaceAll s r source) ∧
      substituteText false ({} : Options).flags source s (.inl (Template.escape r)) =
        .ok (Text.replaceFirst s r source) ∧
      (Text.replaceFirst s r source).count ≤ 1 := by
  refine ⟨?_, ?_, ?_⟩
  · rw [← Pattern.replaceEach_matchesIn]
    exact substituteText_escape hs true source r
  · rw [← Pattern.replaceEach_scanFirst]
    exact substituteText_escape hs false source r
  · rw [Text.replaceFirst]
    split
    · exact Nat.le_refl 1
    · exact Nat.zero_le 1

/-- Occurrences that overlap the one in front of them are not replaced, and what has been written
is not replaced again. The empty text occurs everywhere. -/
theorem substituteText_plain_overlapping :
    substituteText true 0 "aaaba".toList "aa".toList (.inl "aa\\$1".toList) =
        .ok ⟨"aa$1aba".toList, 1⟩ ∧
      substituteText true 0 "ab".toList [] (.inl "\\$".toList) = .ok ⟨"$a$b$".toList, 3⟩ ∧
      substituteText false 0 "ab".toList [] (.inl "\\$".toList) = .ok ⟨"$ab".toList, 1⟩ := by
  obtain ⟨hoverlap, -⟩ := substituteText_plain "aaaba".toList "aa".toList "aa$1".toList (by decide)
  obtain ⟨hempty, hfirst, -⟩ := substituteText_plain "ab".toList [] "$".toList (by decide)
  exact ⟨hoverlap, hempty, hfirst⟩

end Substitution
