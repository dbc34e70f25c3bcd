import Mathlib.Data.List.Chain
import Mathlib.Data.List.Nodup
import Substitution.Proofs.Pattern.Steady
import Substitution.Proofs.Splicing

/-!
# The sequence of matches ends by itself

`Substitution.Pattern.scan` looks for a limited number of matches, and the limit is never what ends
the search. The quantity that shows it is the **room** that is left for matches
(`Substitution.Pattern.room`): two for each character that is left, because at a place between two
characters there may be an empty match and a longer one that begins there, and one more for the
empty match at the place where the search begins, unless there has just been one. Every match takes
some of the room (`Substitution.Pattern.room_lt_of_search`). Since the room of a whole text of `n`
characters is `2 * n + 1`, there are no more matches than that, and any greater limit gives the same
ones.

The pattern `|a` fills the room: an empty match and then the letter, at every letter.

Along the sequence the sum of the two ends of a match grows (`Substitution.Match.Follows`), so that
no span can occur twice. What is known of the sequence as a whole is put together in
`Substitution.Pattern.matchesIn_sequence`. There is one thing else that can end it: the search
breaks off at a match that cannot be told of, which the search for a steady pattern never does.
-/

namespace Substitution

/-- **How a match follows another one**: it does not begin before the end of that one, and if that
one was empty, then it ends behind it. -/
structure Match.Follows (a b : Match) : Prop where
  stop_le_start : a.stop ≤ b.start
  stop_lt_stop : a.start = a.stop → a.stop < b.stop

/-- The sum of the ends of a match is greater than that of the match it follows. -/
theorem Match.Follows.sum_lt_sum {a b : Match} (h : a.Follows b) (ha : a.start ≤ a.stop)
    (hb : b.start ≤ b.stop) : a.start + a.stop < b.start + b.stop := by
  have hstart := h.stop_le_start
  rcases Nat.lt_or_eq_of_le ha with hlt | heq
  · omega
  · have hstop := h.stop_lt_stop heq
    omega

namespace Pattern

variable {p : Pattern} {s : Array Char} {position : Nat} {m : Match} {advance : Bool}

/-! ### Matches that must not be empty -/

theorem lt_stop_of_matchAt (h : p.matchAt s true position = some (.ok m)) : position < m.stop := by
  obtain ⟨st, hst, hne, hcomplete⟩ := exists_precedes_of_matchAt h
  obtain ⟨-, hstop, -⟩ := complete_eq_ok hcomplete.symm
  rw [hstop]
  exact Nat.lt_of_le_of_ne hst.le fun heq => hne rfl heq.symm

/-- A search that does not accept an empty match where it begins finds one that ends further on. -/
theorem lt_stop_of_search {more : Nat} (hsize : position + more ≤ s.size)
    (h : p.search s more true position = some (.ok m)) : position < m.stop := by
  cases more with
  | zero => exact lt_stop_of_matchAt h
  | succ more =>
    rcases Option.or_eq_some_iff.mp h with h | ⟨-, h⟩
    · exact lt_stop_of_matchAt h
    · obtain ⟨hstart, hfits⟩ := fits_of_search (by omega) h
      have hstop := hfits.start_le_stop
      omega

/-! ### Room for matches -/

/-- How many matches there can still be when a search begins at a position, with or without
`advance`. -/
def room (size : Nat) (advance : Bool) (position : Nat) : Nat :=
  2 * (size - position) + if advance then 0 else 1

/-- **Every match takes room.** -/
theorem room_lt_of_search (hposition : position ≤ s.size)
    (h : p.search s (s.size - position) advance position = some (.ok m)) :
    room s.size (m.stop == m.start) m.stop < room s.size advance position := by
  have hsize : position + (s.size - position) ≤ s.size := by omega
  obtain ⟨hstart, hfits⟩ := fits_of_search hsize h
  have hstop := hfits.start_le_stop
  have hend : m.stop ≤ s.size := hfits.stop_le_length
  have hadvance : advance = true → position < m.stop := by
    rintro rfl
    exact lt_stop_of_search hsize h
  rw [room, room]
  by_cases hempty : m.stop = m.start
  · cases advance with
    | true =>
      have hlt := hadvance rfl
      simp only [hempty, beq_self_eq_true, if_true]
      omega
    | false =>
      simp only [hempty, beq_self_eq_true, if_true, Bool.false_eq_true, if_false]
      omega
  · simp only [beq_eq_false_iff_ne.mpr hempty, Bool.false_eq_true, if_false]
    split <;> omega

/-- Where no room is left, nothing more is found. -/
theorem search_eq_none (hposition : position ≤ s.size) (h : room s.size advance position = 0) :
    p.search s (s.size - position) advance position = none := by
  rw [room] at h
  obtain rfl : position = s.size := by omega
  cases advance with
  | false =>
    rw [if_neg Bool.false_ne_true] at h
    cases h
  | true =>
    rw [Nat.sub_self, search]
    by_contra hsome
    obtain ⟨result, hresult⟩ := Option.ne_none_iff_exists'.mp hsome
    obtain ⟨st, hst, hne, -⟩ := exists_precedes_of_matchAt hresult
    exact hne rfl (Nat.le_antisymm (hst.le_size (Nat.le_refl _)) hst.le)

theorem length_scanFrom_le (limit : Nat) (advance : Bool) (hposition : position ≤ s.size) :
    (p.scanFrom s limit advance position).found.length ≤ room s.size advance position := by
  induction limit generalizing advance position with
  | zero => exact Nat.zero_le _
  | succ limit ih =>
    rw [scanFrom_succ]
    split
    · exact Nat.zero_le _
    · exact Nat.zero_le _
    · next m hm =>
      have hstop : m.stop ≤ s.size := (fits_of_search (by omega) hm).2.stop_le_length
      have hlt := room_lt_of_search hposition hm
      have hrest := ih (m.stop == m.start) hstop
      rw [List.length_cons]
      omega

/-- **The limit does not matter** where it is not less than the room. -/
theorem scanFrom_add {limit : Nat} (hposition : position ≤ s.size)
    (hlimit : room s.size advance position ≤ limit) (more : Nat) :
    p.scanFrom s (limit + more) advance position = p.scanFrom s limit advance position := by
  induction limit generalizing advance position with
  | zero =>
    cases more with
    | zero => rfl
    | succ more =>
      rw [← Nat.add_assoc, scanFrom_succ, search_eq_none hposition (Nat.le_zero.mp hlimit)]
      rfl
  | succ limit ih =>
    rw [Nat.add_right_comm, scanFrom_succ, scanFrom_succ]
    split
    · rfl
    · rfl
    · next m hm =>
      have hstop : m.stop ≤ s.size := (fits_of_search (by omega) hm).2.stop_le_length
      have hlt := room_lt_of_search hposition hm
      rw [ih hstop (by omega)]

/-! ### The sequence -/

/-- **What is true of every match of a sequence**: it fits in the text. -/
theorem fits_of_mem_scanFrom {limit : Nat} (hposition : position ≤ s.size)
    (h : m ∈ (p.scanFrom s limit advance position).found) : m.Fits p s.toList := by
  induction limit generalizing advance position with
  | zero => cases h
  | succ limit ih =>
    rw [scanFrom_succ] at h
    split at h
    · cases h
    · cases h
    · next first hfirst =>
      have hfits := (fits_of_search (by omega) hfirst).2
      rcases List.mem_cons.mp h with rfl | hrest
      · exact hfits
      · exact ih hfits.stop_le_length hrest

/-- What is found where another match has ended follows that match. -/
theorem follows_of_search {next : Match} (hstop : m.stop ≤ s.size)
    (h : p.search s (s.size - m.stop) (m.stop == m.start) m.stop = some (.ok next)) :
    m.Follows next := by
  have hsize : m.stop + (s.size - m.stop) ≤ s.size := by omega
  refine ⟨(fits_of_search hsize h).1, fun hempty => ?_⟩
  rw [beq_iff_eq.mpr hempty.symm] at h
  exact lt_stop_of_search hsize h

theorem search_of_mem_head? {limit : Nat}
    (h : m ∈ (p.scanFrom s limit advance position).found.head?) :
    p.search s (s.size - position) advance position = some (.ok m) := by
  cases limit with
  | zero => cases h
  | succ limit =>
    rw [scanFrom_succ] at h
    split at h
    · cases h
    · cases h
    · next first hfirst =>
      cases h
      exact hfirst

/-- **Each match follows the one in front of it.** -/
theorem isChain_scanFrom (limit : Nat) (advance : Bool) (hposition : position ≤ s.size) :
    (p.scanFrom s limit advance position).found.IsChain Match.Follows := by
  induction limit generalizing advance position with
  | zero => exact .nil
  | succ limit ih =>
    rw [scanFrom_succ]
    split
    · exact .nil
    · exact .nil
    · next m hm =>
      have hstop : m.stop ≤ s.size := (fits_of_search (by omega) hm).2.stop_le_length
      refine List.isChain_cons.mpr ⟨fun next hnext => ?_, ih _ hstop⟩
      exact follows_of_search hstop (search_of_mem_head? hnext)

/-! ### The matches in a text -/

variable (p) (source : Text)

theorem fits_of_mem_matchesIn (h : m ∈ p.matchesIn source) : m.Fits p source :=
  fits_of_mem_scanFrom (Nat.zero_le _) h

theorem isChain_matchesIn : (p.matchesIn source).IsChain Match.Follows :=
  isChain_scanFrom _ _ (Nat.zero_le _)

/-- The sums of the ends of the matches grow from each match to all that come after it. -/
theorem pairwise_sum_matchesIn :
    ((p.matchesIn source).map fun m => m.start + m.stop).Pairwise (· < ·) := by
  rw [← List.isChain_iff_pairwise, List.isChain_map]
  refine (p.isChain_matchesIn source).imp_of_mem_imp fun a b ha hb hfollows => ?_
  exact hfollows.sum_lt_sum (p.fits_of_mem_matchesIn source ha).start_le_stop
    (p.fits_of_mem_matchesIn source hb).start_le_stop

/-- **No span occurs twice.** -/
theorem nodup_span_matchesIn :
    ((p.matchesIn source).map fun m => (m.start, m.stop)).Nodup := by
  refine List.Nodup.of_map (fun span : Nat × Nat => span.1 + span.2) ?_
  rw [List.map_map]
  exact (p.pairwise_sum_matchesIn source).imp Nat.ne_of_lt

theorem length_matchesIn_le : (p.matchesIn source).length ≤ 2 * source.length + 1 :=
  length_scanFrom_le (p := p) (s := source.toArray) (2 * source.length + 2) false (Nat.zero_le _)

/-- **The matches in a text are all that there are**: looking for more finds no other one. -/
theorem scanFrom_eq_scan {limit : Nat} (h : 2 * source.length + 1 ≤ limit) :
    p.scanFrom source.toArray limit false 0 = p.scan source := by
  have hroom : room source.toArray.size false 0 ≤ 2 * source.length + 1 := Nat.le_refl _
  obtain ⟨more, rfl⟩ := Nat.exists_eq_add_of_le h
  rw [scan, scanFrom_add (Nat.zero_le _) hroom, scanFrom_add (Nat.zero_le _) hroom 1]

end Pattern

/-- No substitution replaces more matches than there are. -/
theorem count_le_of_substituteGiven {all : Bool} {flags : Flags} {source : Text}
    {pattern : Text ⊕ Pattern} {template : Text ⊕ Template} {r : Replaced}
    (h : substituteGiven all flags source pattern template = .ok r) :
    r.count ≤ 2 * source.length + 1 := by
  obtain ⟨t, p, -, -, h⟩ := substituteGiven_eq_ok_iff.mp h
  obtain ⟨-, replacements, -, rfl⟩ := substitute_eq_ok_iff.mp h
  refine Nat.le_trans ?_ (p.length_matchesIn_le source)
  rw [found_replacedScan]
  split
  · exact Nat.le_refl _
  · exact (List.take_sublist 1 _).length_le

namespace Pattern

/-- **The matches of a pattern in a text are a well-formed sequence that ends by itself.** Let the
pattern be what any text writes under any flags, and let the source have `n` characters. Every match
that is told of is a span of the source, with one capture for each capturing group of the pattern,
and each capture is a part of the source. Each match follows the one in front of it, so no span
occurs twice. There are at most `2 * n + 1` matches, and looking for any greater number of them
finds the same ones and ends in the same way; so no substitution counts more. The search does not
break off unless the pattern has a possessive repetition around a group, outside of other
repetitions. -/
theorem matchesIn_sequence {text : Text} {flags : Flags} {p : Pattern}
    (h : compile text flags = .ok p) (source : Text) :
    (∀ m ∈ p.matchesIn source,
      m.start ≤ m.stop ∧ m.stop ≤ source.length ∧
      m.captures.length = p.groups ∧ ∀ capture ∈ m.captures, capture <:+: source) ∧
    p.root.groupNumbers = List.range' 1 p.groups ∧
    (p.matchesIn source).IsChain Match.Follows ∧
    ((p.matchesIn source).map fun m => (m.start, m.stop)).Nodup ∧
    (p.matchesIn source).length ≤ 2 * source.length + 1 ∧
    (∀ limit, 2 * source.length + 1 ≤ limit →
      p.scanFrom source.toArray limit false 0 = p.scan source) ∧
    (p.root.Steady → (p.scan source).fault = none) ∧
    ∀ all template r, substituteText all flags source text template = .ok r →
      r.count ≤ 2 * source.length + 1 := by
  refine ⟨fun m hm => ?_, groupNumbers_eq h, p.isChain_matchesIn source,
    p.nodup_span_matchesIn source, p.length_matchesIn_le source,
    fun limit hlimit => p.scanFrom_eq_scan source hlimit,
    fun hsteady => fault_scan_eq_none h hsteady source,
    fun all template r hr => count_le_of_substituteGiven hr⟩
  have hfits := p.fits_of_mem_matchesIn source hm
  exact ⟨hfits.start_le_stop, hfits.stop_le_length, hfits.length_captures, hfits.isInfix_captures⟩

/-- The pattern `|(a)` reaches the bound: an empty match, then the letter, and so on. -/
theorem matchesIn_sequence_alternating :
    ∃ p, compile "|(a)".toList 0 = .ok p ∧ p.matchesIn "aa".toList =
        [⟨0, 0, [[]]⟩, ⟨0, 1, [['a']]⟩, ⟨1, 1, [[]]⟩, ⟨1, 2, [['a']]⟩, ⟨2, 2, [[]]⟩] ∧
      (p.matchesIn "aa".toList).IsChain Match.Follows ∧
      (p.matchesIn "aa".toList).length = 2 * "aa".toList.length + 1 ∧
      (p.scan "aa".toList).fault = none := by
  have hp : compile "|(a)".toList 0 = .ok ⟨"|(a)".toList, 1,
      .alt .empty (.group (some 1) (.one (.code 97 false) ⟨false, true⟩)), true⟩ := rfl
  obtain ⟨-, -, hchain, -, -, -, hfault, -⟩ := matchesIn_sequence hp "aa".toList
  exact ⟨_, hp, rfl, hchain, rfl, hfault ⟨trivial, trivial⟩⟩

/-- **A group that is entered in vain.** In the second and third round of `(?:(a)|b)*+` on `abb` the
group begins anew and does not end. The match of the whole text cannot be told of, and the search
breaks off without having told of any match. On `ab` it does not: there the group begins where it
has ended. -/
theorem scan_entered_in_vain :
    ∃ p, compile "(?:(a)|b)*+".toList 0 = .ok p ∧ ¬p.root.Steady ∧
      p.scan "abb".toList = ⟨[], some .wrongSpan⟩ ∧
      p.scan "ab".toList = ⟨[⟨0, 2, [[]]⟩, ⟨2, 2, [[]]⟩], none⟩ := by
  have hp : compile "(?:(a)|b)*+".toList 0 = .ok ⟨"(?:(a)|b)*+".toList, 1,
      .loop 0 none .possessive (.alt (.group (some 1) (.one (.code 97 false) ⟨false, true⟩))
        (.one (.code 98 false) ⟨false, true⟩)), true⟩ := rfl
  refine ⟨_, hp, fun hsteady => ?_, rfl, rfl⟩
  cases hsteady rfl

end Pattern

end Substitution
