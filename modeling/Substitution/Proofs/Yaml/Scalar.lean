import Substitution.Rule.Writer
import Substitution.Yaml.Scalar

/-!
# Scalars on one line

Two kinds of scalars are easy to write: a text in single quotes, with each quote written twice, and
a word, which stands as it is. Read from their first character on, they give the text back
(`Substitution.Yaml.readQuoted_single`, `Substitution.Yaml.readPlain_key`,
`Substitution.Yaml.readPlain_value`).

Inside quotes only blanks are treated apart, since they might stand before a line end; there is no
line end here, so they are handed on to the next character that is no blank. Where a word ends
depends on what follows it: a colon with a space, or the end of its line, behind which the reader
looks for more of the word and finds a line that is not indented far enough.
-/

namespace Substitution

namespace Yaml

/-! ### Characters -/

/-- The characters of a text that can be written on one line: tabs, and what may occur in a document
and ends no line. -/
def Inline (c : Char) : Prop :=
  c = '\t' ∨ (0x20 ≤ c.toNat ∧ c.toNat ≤ 0x7E) ∨
    (0xA0 ≤ c.toNat ∧ c.toNat ≤ 0xD7FF ∧ c.toNat ≠ 0x2028 ∧ c.toNat ≠ 0x2029) ∨
    (0xE000 ≤ c.toNat ∧ c.toNat ≤ 0xFFFD) ∨ 0x10000 ≤ c.toNat

instance (c : Char) : Decidable (Inline c) :=
  inferInstanceAs (Decidable (_ ∨ _))

theorem Inline.ne {c d : Char} (h : Inline c) (hd : ¬Inline d) : c ≠ d := by
  rintro rfl
  exact hd h

theorem Inline.isBreak_eq_false {c : Char} (h : Inline c) : isBreak c = false := by
  have hfeed : c ≠ '\n' := h.ne (by decide)
  have hcode : c.toNat ≠ 0x85 ∧ c.toNat ≠ 0x2028 ∧ c.toNat ≠ 0x2029 := by
    rcases h with rfl | h | h | h | h
    · decide
    all_goals omega
  simp [isBreak, hfeed, hcode]

theorem Inline.isAllowed {c : Char} (h : Inline c) : isAllowed c = true := by
  have hspace : ' ' ≤ c ↔ 0x20 ≤ c.toNat := Iff.rfl
  have htilde : c ≤ '~' ↔ c.toNat ≤ 0x7E := Iff.rfl
  rcases h with rfl | h | h | h | h
  · rfl
  all_goals simp [Yaml.isAllowed, hspace, htilde, h]

/-- A small letter. -/
def Letter (c : Char) : Prop :=
  'a' ≤ c ∧ c ≤ 'z'

instance (c : Char) : Decidable (Letter c) :=
  inferInstanceAs (Decidable (_ ∧ _))

theorem Letter.ne {c d : Char} (h : Letter c) (hd : ¬Letter d) : c ≠ d := by
  rintro rfl
  exact hd h

theorem Letter.toNat_bounds {c : Char} (h : Letter c) : 97 ≤ c.toNat ∧ c.toNat ≤ 122 :=
  h

theorem Letter.inline {c : Char} (h : Letter c) : Inline c := by
  have hbounds := h.toNat_bounds
  exact .inr (.inl (by omega))

/-- A letter is no gap. -/
theorem Letter.isGapOrTab_eq_false {c : Char} (h : Letter c) : isGapOrTab (some c) = false := by
  have hspace : c ≠ ' ' := h.ne (by decide)
  have htab : c ≠ '\t' := h.ne (by decide)
  simp [isGapOrTab, isBlank, hspace, htab, h.inline.isBreak_eq_false]

/-- A word of small letters. -/
def IsWord (w : Text) : Prop :=
  w ≠ [] ∧ ∀ c ∈ w, Letter c

instance (w : Text) : Decidable (IsWord w) :=
  have : Decidable (∀ c ∈ w, Letter c) := w.decidableBAll _
  inferInstanceAs (Decidable (_ ∧ _))

/-! ### Places -/

namespace Cursor

/-- The place after a character that ends no line, inside of the line. -/
theorem next_rest {c : Cursor} {d : Char} {rest : Text} (hrest : c.rest = d :: rest)
    (hd : isBreak d = false) : c.next.rest = rest ∧ c.next.line = c.line := by
  rw [next, hrest]
  simp only [hd, Bool.false_eq_true, if_false, and_self]

/-- No line ends where none does. -/
theorem lineBreak?_eq_none_of_head? {c : Cursor} (h : ∀ d ∈ c.rest.head?, isBreak d = false) :
    c.lineBreak? = none := by
  rw [lineBreak?]
  split
  · next d _ hrest =>
    rw [hrest] at h
    rw [if_neg (by simp [h d rfl])]
  · rfl

theorem lineBreak?_eq_none {c : Cursor} {d : Char} {rest : Text} (hrest : c.rest = d :: rest)
    (hd : isBreak d = false) : c.lineBreak? = none := by
  refine lineBreak?_eq_none_of_head? fun e he => ?_
  rw [hrest] at he
  obtain rfl : d = e := Option.some.inj he
  exact hd

/-- A character other than the byte-order mark takes a column. -/
theorem next_column {d : Char} {rest : Text} {index line column : Nat} (hd : isBreak d = false)
    (hmark : d.toNat ≠ 0xFEFF) :
    next ⟨d :: rest, index, line, column⟩ = ⟨rest, index + 1, line, column + 1⟩ := by
  simp only [next, hd, Bool.false_eq_true, if_false, hmark]

/-- The place after a word. -/
theorem skip_word {w : Text} (hw : ∀ c ∈ w, Letter c) (rest : Text) (index line column : Nat) :
    skip w.length ⟨w ++ rest, index, line, column⟩ =
      ⟨rest, index + w.length, line, column + w.length⟩ := by
  induction w generalizing index column with
  | nil => rfl
  | cons d w ih =>
    obtain ⟨hd, hw⟩ := List.forall_mem_cons.mp hw
    have hbounds := hd.toNat_bounds
    rw [List.length_cons, skip, List.cons_append,
      next_column hd.inline.isBreak_eq_false (by omega), ih hw, Nat.add_right_comm, Nat.add_assoc]
    congr 1
    omega

/-- The place after spaces. -/
theorem skip_spaces (width : Nat) (rest : Text) (index line column : Nat) :
    skip width ⟨List.replicate width ' ' ++ rest, index, line, column⟩ =
      ⟨rest, index + width, line, column + width⟩ := by
  induction width generalizing index column with
  | zero => rfl
  | succ width ih =>
    rw [skip, List.replicate_succ, List.cons_append, next_column (by decide) (by decide), ih]
    congr 1 <;> omega

theorem skipSpaces_replicate {width : Nat} {rest : Text} (h : ∀ c ∈ rest.head?, c ≠ ' ')
    (index line column : Nat) :
    skipSpaces ⟨List.replicate width ' ' ++ rest, index, line, column⟩ =
      ⟨rest, index + width, line, column + width⟩ := by
  have hrest : rest.takeWhile (· == ' ') = [] := by
    cases rest with
    | nil => rfl
    | cons c rest => simp [h c rfl]
  have htaken : (List.replicate width ' ' ++ rest).takeWhile (· == ' ') =
      List.replicate width ' ' := by
    rw [List.takeWhile_append_of_pos, hrest, List.append_nil]
    intro c hc
    rw [List.eq_of_mem_replicate hc]
    rfl
  rw [skipSpaces, skipWhile, span, htaken, List.length_replicate]
  exact skip_spaces width rest index line column

end Cursor

/-- The character can be the first one of a token. -/
structure StartsToken (c : Char) : Prop where
  ne_space : c ≠ ' '
  ne_hash : c ≠ '#'
  noBreak : isBreak c = false
  ne_mark : c ≠ Char.ofNat 0xFEFF

theorem StartsToken.head {c : Char} (hc : StartsToken c) (t : Text) :
    ∀ d ∈ (c :: t).head?, StartsToken d := by
  rintro d ⟨⟩
  exact hc

/-- **A line of a block**: it is indented by `width` columns, a token stands behind the indentation
or nothing at all, and it marks neither the start nor the end of a document. -/
structure LineStart (width : Nat) (t : Text) : Prop where
  head : ∀ c ∈ t.head?, StartsToken c
  noMarker : (Cursor.start (List.replicate width ' ' ++ t)).atMarker = false

/-! ### Quoted scalars -/

/-- The text inside single quotes that stands for a text. -/
def doubled (t : Text) : Text :=
  t.flatMap fun c => if c = '\'' then ['\'', '\''] else [c]

theorem doubled_cons (c : Char) (t : Text) :
    doubled (c :: t) = if c = '\'' then '\'' :: '\'' :: doubled t else c :: doubled t := by
  rw [doubled, List.flatMap_cons]
  split <;> rfl

/-- The closing quote. -/
theorem quotedFrom_close {rest : Text} (hend : rest.head? ≠ some '\'') (blanks : Text)
    (limit : Nat) {c : Cursor} (hc : c.rest = '\'' :: rest) :
    quotedFrom false blanks (limit + 1) c = .ok (blanks, c.next) := by
  have hbreak : c.lineBreak? = none := Cursor.lineBreak?_eq_none hc rfl
  rw [quotedFrom, hc]
  dsimp only
  rw [if_neg (by decide), hbreak]
  dsimp only
  rw [if_neg (by decide), if_pos rfl, if_neg hend]

/-- A quote that is written twice. -/
theorem quotedFrom_quote {rest : Text} (blanks : Text) (limit : Nat) {c : Cursor}
    (hc : c.rest = '\'' :: '\'' :: rest) :
    quotedFrom false blanks (limit + 1) c =
      (quotedFrom false [] limit c.next.next).map fun (more, c) =>
        (blanks ++ ['\''] ++ more, c) := by
  have hbreak : c.lineBreak? = none := Cursor.lineBreak?_eq_none hc rfl
  rw [quotedFrom, hc]
  dsimp only
  rw [if_neg (by decide), hbreak]
  dsimp only
  rw [if_neg (by decide), if_pos rfl, List.head?_cons, if_pos rfl]

/-- A blank is kept until it is known what follows it. -/
theorem quotedFrom_blank {d : Char} {rest : Text} (hd : isBlank d = true) (blanks : Text)
    (limit : Nat) {c : Cursor} (hc : c.rest = d :: rest) :
    quotedFrom false blanks (limit + 1) c = quotedFrom false (blanks ++ [d]) limit c.next := by
  rw [quotedFrom, hc]
  dsimp only
  rw [if_pos hd]

/-- Any other character stands for itself. -/
theorem quotedFrom_other {d : Char} {rest : Text} (hd : Inline d) (hblank : isBlank d = false)
    (hquote : d ≠ '\'') (blanks : Text) (limit : Nat) {c : Cursor} (hc : c.rest = d :: rest) :
    quotedFrom false blanks (limit + 1) c =
      (quotedFrom false [] limit c.next).map fun (more, c) => (blanks ++ [d] ++ more, c) := by
  have hbreak : c.lineBreak? = none := Cursor.lineBreak?_eq_none hc hd.isBreak_eq_false
  rw [quotedFrom, hc]
  dsimp only
  rw [if_neg (by simp [hblank]), hbreak]
  dsimp only
  rw [if_neg (by decide), if_neg hquote]

/-- **A quoted text is read to its closing quote.** -/
theorem quotedFrom_doubled {t : Text} (ht : ∀ c ∈ t, Inline c) {rest : Text}
    (hend : rest.head? ≠ some '\'') (blanks : Text) {limit : Nat} (hlimit : t.length < limit)
    {c : Cursor} (hc : c.rest = doubled t ++ '\'' :: rest) :
    ∃ c', quotedFrom false blanks limit c = .ok (blanks ++ t, c') ∧ c'.rest = rest ∧
      c'.line = c.line := by
  induction t generalizing blanks limit c with
  | nil =>
    obtain ⟨limit, rfl⟩ := Nat.exists_eq_add_of_lt hlimit
    obtain ⟨hrest, hline⟩ := Cursor.next_rest hc rfl
    refine ⟨c.next, ?_, hrest, hline⟩
    rw [quotedFrom_close hend blanks _ hc, List.append_nil]
  | cons d t ih =>
    obtain ⟨hd, hothers⟩ := List.forall_mem_cons.mp ht
    specialize ih hothers
    obtain ⟨limit, rfl⟩ := Nat.exists_eq_succ_of_ne_zero (Nat.ne_of_gt (Nat.zero_lt_of_lt hlimit))
    have hleft : t.length < limit := Nat.lt_of_succ_lt_succ hlimit
    rw [doubled_cons] at hc
    split at hc
    · next hquote =>
      subst hquote
      obtain ⟨hrest, hline⟩ := Cursor.next_rest hc rfl
      obtain ⟨hrest', hline'⟩ := Cursor.next_rest hrest rfl
      obtain ⟨c', hread, hend', hline''⟩ := ih [] hleft hrest'
      refine ⟨c', ?_, hend', hline''.trans (hline'.trans hline)⟩
      rw [Nat.succ_eq_add_one, quotedFrom_quote blanks limit hc, hread]
      simp [Except.map]
    · next hquote =>
      obtain ⟨hrest, hline⟩ := Cursor.next_rest hc hd.isBreak_eq_false
      -- A blank is handed on, so the statement has to be one for any blanks in front.
      cases hblank : isBlank d with
      | true =>
        obtain ⟨c', hread, hend', hline'⟩ := ih (blanks ++ [d]) hleft hrest
        refine ⟨c', ?_, hend', hline'.trans hline⟩
        rw [Nat.succ_eq_add_one, quotedFrom_blank hblank blanks limit hc, hread,
          List.append_assoc, List.singleton_append]
      | false =>
        obtain ⟨c', hread, hend', hline'⟩ := ih [] hleft hrest
        refine ⟨c', ?_, hend', hline'.trans hline⟩
        rw [Nat.succ_eq_add_one, quotedFrom_other hd hblank hquote blanks limit hc, hread]
        simp [Except.map]

theorem length_le_length_doubled (t : Text) : t.length ≤ (doubled t).length := by
  induction t with
  | nil => exact Nat.le_refl 0
  | cons c t ih =>
    rw [doubled_cons]
    split <;> simp only [List.length_cons] <;> omega

/-- **A text in single quotes is read as this text.** -/
theorem readQuoted_single {t : Text} (ht : ∀ c ∈ t, Inline c) {rest : Text}
    (hend : rest.head? ≠ some '\'') {c : Cursor}
    (hc : c.rest = RuleEntry.singleQuoted t ++ rest) :
    ∃ c', readQuoted false c = .ok (t, c') ∧ c'.rest = rest ∧ c'.line = c.line := by
  have hspell : c.rest = '\'' :: (doubled t ++ '\'' :: rest) := by
    rw [hc, RuleEntry.singleQuoted, doubled]
    simp
  obtain ⟨hrest, hline⟩ := Cursor.next_rest hspell rfl
  have hlength := length_le_length_doubled t
  have hlimit : t.length < c.rest.length + 1 := by
    rw [hspell, List.length_cons, List.length_append]
    omega
  obtain ⟨c', hread, hrest', hline'⟩ := quotedFrom_doubled ht hend [] hlimit hrest
  exact ⟨c', hread, hrest', hline'.trans hline⟩

/-! ### Words -/

/-- A word goes on up to what ends it. -/
theorem plainRun_word {w : Text} (hw : ∀ c ∈ w, Letter c) {rest : Text}
    (hend : plainRun false rest = []) : plainRun false (w ++ rest) = w := by
  induction w with
  | nil => exact hend
  | cons c w ih =>
    obtain ⟨hc, hw⟩ := List.forall_mem_cons.mp hw
    have hcolon : (c == ':') = false := beq_eq_false_iff_ne.mpr (hc.ne (by decide))
    rw [List.cons_append, plainRun]
    simp only [hc.isGapOrTab_eq_false, hcolon, Bool.false_and, Bool.or_false, Bool.false_eq_true,
      if_false, ih hw]

variable {w : Text} {index line column : Nat} {indent : Int}

/-- No marker stands where the text has none. -/
theorem Cursor.atMarker_eq (c : Cursor) : c.atMarker = (Cursor.start c.rest).atMarker :=
  rfl

/-- Behind the end of a line, a scalar goes on where the next line begins. -/
theorem plainGap_lineEnd {width : Nat} {t : Text} (ht : LineStart width t) :
    plainGap ⟨'\n' :: (List.replicate width ' ' ++ t), index, line, column⟩ =
      (some [' '], true, ⟨t, index + 1 + width, line + 1, width⟩) := by
  have hspaces : (⟨List.replicate width ' ' ++ t, index + 1, line + 1, 0⟩ : Cursor).skipSpaces =
      ⟨t, index + 1 + width, line + 1, 0 + width⟩ :=
    Cursor.skipSpaces_replicate (fun c hc => (ht.head c hc).ne_space) _ _ _
  have hbreak : (⟨t, index + 1 + width, line + 1, 0 + width⟩ : Cursor).lineBreak? = none :=
    Cursor.lineBreak?_eq_none_of_head? fun c hc => (ht.head c hc).noBreak
  have hbreaks : plainBreaks ((List.replicate width ' ' ++ t).length + 1)
      ⟨List.replicate width ' ' ++ t, index + 1, line + 1, 0⟩ =
      (some [], ⟨t, index + 1 + width, line + 1, 0 + width⟩) := by
    rw [plainBreaks, Cursor.atMarker_eq, ht.noMarker, hspaces]
    dsimp only
    rw [if_neg (by decide), hbreak]
  have hspan : (⟨'\n' :: (List.replicate width ' ' ++ t), index, line, column⟩ : Cursor).span
      (· == ' ') = ([], ⟨'\n' :: (List.replicate width ' ' ++ t), index, line, column⟩) := rfl
  have hend : (⟨'\n' :: (List.replicate width ' ' ++ t), index, line, column⟩ : Cursor).lineBreak? =
      some ('\n', ⟨List.replicate width ' ' ++ t, index + 1, line + 1, 0⟩) := rfl
  rw [plainGap, hspan]
  dsimp only
  rw [hend]
  dsimp only
  rw [hbreaks, Nat.zero_add]
  rfl

/-- The run of a word that begins here. -/
theorem plainFrom_word (hw : IsWord w) {rest : Text} (hend : plainRun false rest = [])
    (limit : Nat) :
    plainFrom false indent [] (limit + 1) ⟨[], false, ⟨w ++ rest, index, line, column⟩⟩ =
      match plainGap ⟨rest, index + w.length, line, column + w.length⟩ with
      | (none, keyAllowed, c) => ⟨w, keyAllowed, c⟩
      | (some gap, keyAllowed, c) =>
        if c.peek = some '#' ∨ (c.column : Int) < indent then ⟨w, keyAllowed, c⟩
        else plainFrom false indent gap limit ⟨w, keyAllowed, c⟩ := by
  obtain ⟨hne, hletters⟩ := hw
  have hrun := plainRun_word hletters hend
  have hpeek : (⟨w ++ rest, index, line, column⟩ : Cursor).peek ≠ some '#' := by
    obtain ⟨d, w, rfl⟩ := List.exists_cons_of_ne_nil hne
    exact fun heq => (hletters d List.mem_cons_self).ne (by decide) (Option.some.inj heq)
  rw [plainFrom]
  dsimp only
  rw [hrun, if_neg (by simp [hpeek, hne]), Cursor.skip_word hletters]
  simp only [List.nil_append, Bool.not_false, Bool.true_and, decide_eq_true_eq]
  rcases plainGap ⟨rest, index + w.length, line, column + w.length⟩ with ⟨_ | gap, keyAllowed, c⟩
  · rfl
  · rfl

/-- **A word is a key where a colon and a space follow.** -/
theorem readPlain_key (hw : IsWord w) (t : Text) :
    readPlain false indent ⟨w ++ ':' :: ' ' :: t, index, line, column⟩ =
      ⟨w, false, ⟨':' :: ' ' :: t, index + w.length, line, column + w.length⟩⟩ := by
  rw [readPlain, plainFrom_word hw rfl]
  rfl

/-- **A word is a value where its line ends** and the next one is not indented far enough. -/
theorem readPlain_value (hw : IsWord w) {width : Nat} {t : Text} (ht : LineStart width t)
    (hindent : (width : Int) < indent) :
    readPlain false indent
        ⟨w ++ '\n' :: (List.replicate width ' ' ++ t), index, line, column⟩ =
      ⟨w, true, ⟨t, index + w.length + 1 + width, line + 1, width⟩⟩ := by
  rw [readPlain, plainFrom_word hw rfl, plainGap_lineEnd ht]
  dsimp only
  rw [if_pos (.inr hindent)]

end Yaml

end Substitution
