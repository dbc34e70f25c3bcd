import Substitution.Pattern.Basic
import Substitution.Proofs.Except
import Substitution.Proofs.Pattern.Progress

/-!
# Matches in a text come in order

The spans of the matches that `Substitution.Pattern.matchesIn` lists lie in the text and follow one
another: each begins at the end of the one before it or later. This is
`Substitution.Pattern.spaced_matchesIn`, and all that is used of the matcher is that it moves
forward (`Substitution.Node.keeps_run`). Since a pattern here is any tree, the statement does not
depend on how patterns are read.

A search for the first match gives what the search for all of them begins with
(`Substitution.Pattern.found_scanFirst`), so nothing has to be said about it separately. It breaks
off only where the other one does so without having found a match.
-/

namespace Substitution

/-- **What a match of a pattern is** in a text: a span of the text, and a capture for each group of
the pattern, each of them a part of the text. -/
structure Match.Fits (p : Pattern) (source : Text) (m : Match) : Prop where
  start_le_stop : m.start ≤ m.stop
  stop_le_length : m.stop ≤ source.length
  length_captures : m.captures.length = p.groups
  isInfix_captures : ∀ capture ∈ m.captures, capture <:+: source

/-- The matches follow one another in a text of `size` characters, none of them beginning before
`position` or before the end of the one in front of it. -/
def Match.Spaced (size : Nat) : (position : Nat) → List Match → Prop
  | _, [] => True
  | position, m :: rest =>
    position ≤ m.start ∧ m.start ≤ m.stop ∧ m.stop ≤ size ∧ Spaced size m.stop rest

/-- What a list of matches begins with follows one another too. -/
theorem Match.Spaced.take {size position : Nat} {found : List Match}
    (h : Match.Spaced size position found) (count : Nat) :
    Match.Spaced size position (found.take count) := by
  induction count generalizing position found with
  | zero => trivial
  | succ count ih =>
    cases found with
    | nil => trivial
    | cons m rest =>
      obtain ⟨hstart, hstop, hsize, hrest⟩ := h
      exact ⟨hstart, hstop, hsize, ih hrest⟩

namespace Pattern

variable {p : Pattern} {s : Array Char} {position : Nat} {m : Match} {advance : Bool}

/-! ### One match -/

/-- A capture is a part of the text. -/
theorem isInfix_of_capture {marks : Marks} {group : Nat} {text : Text}
    (h : capture s marks group = .ok text) : text <:+: s.toList := by
  rw [capture] at h
  split at h
  · split at h
    · obtain rfl := Except.ok.inj h
      rw [Array.toList_extract, List.extract_eq_take_drop]
      exact (List.take_prefix _ _).isInfix.trans (List.drop_suffix _ _).isInfix
    · cases h
  · obtain rfl := Except.ok.inj h
    exact List.nil_infix

/-- A match that is told of has a capture for each group. -/
theorem complete_eq_ok {start : Nat} {st : MatchState} (h : p.complete s start st = .ok m) :
    m.start = start ∧ m.stop = st.position ∧ m.captures.length = p.groups ∧
      ∀ text ∈ m.captures, text <:+: s.toList := by
  obtain ⟨captures, hcaptures, rfl⟩ := Except.map_eq_ok_iff.mp h
  have hmap := Except.mapM_eq_ok_iff.mp hcaptures
  refine ⟨rfl, rfl, ?_, fun text htext => ?_⟩
  · have hlength := congrArg List.length hmap
    simpa using hlength.symm
  · have hmem : (.ok text : Except SearchFault Text) ∈ captures.map .ok :=
      List.mem_map_of_mem htext
    rw [← hmap] at hmem
    obtain ⟨group, -, hgroup⟩ := List.mem_map.mp hmem
    exact isInfix_of_capture hgroup

/-- **A match is what the tree hands on** at the place where it begins, and with `advance` it ends
elsewhere. -/
theorem exists_precedes_of_matchAt {result : Except SearchFault Match}
    (h : p.matchAt s advance position = some result) :
    ∃ st : MatchState, Precedes s position st.position ∧
      (advance = true → st.position ≠ position) ∧ result = p.complete s position st := by
  rw [matchAt] at h
  split at h
  · split at h
    · next st hst =>
      obtain ⟨mid, hmid, hout⟩ := p.root.keeps_run false _ _ _ hst
      -- The continuation of a whole match refuses some states and changes none.
      split at hout
      · cases hout
      · next hne =>
        obtain rfl : mid = st := Trial.matched.inj hout
        refine ⟨mid, hmid, ?_, (Option.some.inj h).symm⟩
        rintro rfl
        simpa using hne
    · cases h
  · cases h

theorem fits_of_matchAt (hposition : position ≤ s.size)
    (h : p.matchAt s advance position = some (.ok m)) :
    m.start = position ∧ m.Fits p s.toList := by
  obtain ⟨st, hst, -, hcomplete⟩ := exists_precedes_of_matchAt h
  obtain ⟨hstart, hstop, hlength, hinfix⟩ := complete_eq_ok hcomplete.symm
  refine ⟨hstart, ?_, ?_, hlength, hinfix⟩
  · rw [hstart, hstop]
    exact hst.le
  · rw [hstop, Array.length_toList]
    exact hst.le_size hposition

/-! ### Searches -/

/-- What a search finds is what is found at some place. -/
theorem exists_matchAt_of_search {more : Nat} {result : Except SearchFault Match}
    (h : p.search s more advance position = some result) :
    ∃ advance begins, p.matchAt s advance begins = some result := by
  induction more generalizing advance position with
  | zero => exact ⟨advance, position, h⟩
  | succ more ih =>
    rcases Option.or_eq_some_iff.mp h with h | ⟨-, h⟩
    · exact ⟨advance, position, h⟩
    · exact ih h

/-- A search looks at no position before the one it begins at. -/
theorem fits_of_search {more : Nat} (hsize : position + more ≤ s.size)
    (h : p.search s more advance position = some (.ok m)) :
    position ≤ m.start ∧ m.Fits p s.toList := by
  induction more generalizing advance position with
  | zero =>
    obtain ⟨hstart, hfits⟩ := fits_of_matchAt hsize h
    exact ⟨Nat.le_of_eq hstart.symm, hfits⟩
  | succ more ih =>
    rcases Option.or_eq_some_iff.mp h with h | ⟨-, h⟩
    · obtain ⟨hstart, hfits⟩ := fits_of_matchAt (by omega) h
      exact ⟨Nat.le_of_eq hstart.symm, hfits⟩
    · obtain ⟨hstart, hfits⟩ := ih (by omega) h
      exact ⟨by omega, hfits⟩

/-- **What a search for several matches does** depends on the next one: it ends, or breaks off, or
goes on behind the match. -/
theorem scanFrom_succ (limit : Nat) :
    p.scanFrom s (limit + 1) advance position =
      match p.search s (s.size - position) advance position with
      | none => ⟨[], none⟩
      | some (.error e) => ⟨[], some e⟩
      | some (.ok m) =>
        ⟨m :: (p.scanFrom s limit (m.stop == m.start) m.stop).found,
          (p.scanFrom s limit (m.stop == m.start) m.stop).fault⟩ :=
  rfl

theorem spaced_scanFrom (limit : Nat) (advance : Bool) (hposition : position ≤ s.size) :
    Match.Spaced s.size position (p.scanFrom s limit advance position).found := by
  induction limit generalizing advance position with
  | zero => trivial
  | succ limit ih =>
    rw [scanFrom_succ]
    split
    · trivial
    · trivial
    · next m hm =>
      obtain ⟨hstart, hfits⟩ := fits_of_search (by omega) hm
      have hstop : m.stop ≤ s.size := hfits.stop_le_length
      exact ⟨hstart, hfits.start_le_stop, hstop, ih _ hstop⟩

/-- **The matches in a text follow one another**, inside of the text. -/
theorem spaced_matchesIn (p : Pattern) (source : Text) :
    Match.Spaced source.length 0 (p.matchesIn source) :=
  spaced_scanFrom (p := p) (s := source.toArray) (2 * source.length + 2) false (Nat.zero_le _)

/-! ### The first match -/

/-- The first match in a text is the first one of the list. -/
theorem found_scanFirst (p : Pattern) (source : Text) :
    (p.scanFirst source).found = (p.matchesIn source).take 1 := by
  rw [matchesIn, scan, scanFirst, scanFrom_succ, scanFrom_succ]
  rcases p.search source.toArray (source.toArray.size - 0) false 0 with - | - | - <;> rfl

/-- To look for the first match breaks off if looking for all of them does so at once. -/
theorem fault_scanFirst (p : Pattern) (source : Text) :
    (p.scanFirst source).fault =
      if p.matchesIn source = [] then (p.scan source).fault else none := by
  rw [matchesIn, scan, scanFirst, scanFrom_succ, scanFrom_succ]
  rcases p.search source.toArray (source.toArray.size - 0) false 0 with - | - | - <;> rfl

end Pattern

end Substitution
