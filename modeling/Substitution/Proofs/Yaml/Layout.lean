import Substitution.Proofs.Yaml.Scalar
import Substitution.Yaml.Layout

/-!
# The layout of records

A list of records is easy to write as a document: each record is an item, each field of it a line
with a key, a colon and a scalar, and the fields of one record stand below each other. The tokens of
such a document are those of its records, one after the other (`Substitution.Yaml.tokens_sheet`).

Token by token, the reading goes through two kinds of states. Where no key is pending, a state is a
place, the columns of the open blocks and the tokens so far (`Substitution.Yaml.Layout.plainAt`);
behind a word that may be a key, a layer for it is pending as well
(`Substitution.Yaml.Layout.keyAt`). `Substitution.Yaml.Layout.Reads` relates two states if so many
tokens lie between them. The places themselves matter little: the index is only needed to see that
no key is too long, and the column begins anew on each line.
-/

namespace Substitution

namespace Yaml

namespace Layout

/-! ### Steps of the reading -/

/-- **The reading comes from one state to the other** with so many tokens. -/
def Reads (count : Nat) (l l' : Layout) : Prop :=
  ∀ limit, l.tokensFrom (limit + count) = l'.tokensFrom limit

theorem Reads.trans {m n : Nat} {l l' l'' : Layout} (h : Reads m l l') (h' : Reads n l' l'') :
    Reads (m + n) l l'' := by
  intro limit
  rw [Nat.add_comm m n, ← Nat.add_assoc, h, h']

/-- A step of the reading. -/
theorem reads_one {l dropped l' : Layout} (hdrop : l.dropStale = .ok dropped)
    (hnext : dropped.next = .ok l') (hended : l'.ended = false) : Reads 1 l l' := by
  intro limit
  rw [tokensFrom, hdrop]
  dsimp only
  rw [hnext]
  dsimp only
  rw [hended, if_neg Bool.false_ne_true]

/-! ### The way to the next token -/

section Advance

variable {index line column : Nat} {t : Text}

theorem skipToToken_spaces (width : Nat) (ht : ∀ d ∈ t.head?, StartsToken d) (limit : Nat) :
    skipToToken (limit + 1) ⟨List.replicate width ' ' ++ t, index, line, column⟩ =
      (⟨t, index + width, line, column + width⟩, false) := by
  have hspaces : (⟨List.replicate width ' ' ++ t, index, line, column⟩ : Cursor).skipSpaces =
      ⟨t, index + width, line, column + width⟩ :=
    Cursor.skipSpaces_replicate (fun d hd => (ht d hd).ne_space) _ _ _
  have hcomment : (⟨t, index + width, line, column + width⟩ : Cursor).skipComment =
      ⟨t, index + width, line, column + width⟩ := by
    rw [Cursor.skipComment, if_neg]
    exact fun hpeek => (ht '#' hpeek).ne_hash rfl
  have hbreak : (⟨t, index + width, line, column + width⟩ : Cursor).lineBreak? = none :=
    Cursor.lineBreak?_eq_none_of_head? fun d hd => (ht d hd).noBreak
  rw [skipToToken, hspaces, hcomment, hbreak]

theorem skipToToken_lineEnd {width : Nat} (ht : LineStart width t) (limit : Nat) :
    skipToToken (limit + 1 + 1)
        ⟨'\n' :: (List.replicate width ' ' ++ t), index, line, column⟩ =
      (⟨t, index + 1 + width, line + 1, width⟩, true) := by
  change ((skipToToken (limit + 1)
    ⟨List.replicate width ' ' ++ t, index + 1, line + 1, 0⟩).1, true) = _
  rw [skipToToken_spaces width ht.head, Nat.zero_add]

/-- The layout at the next token, unless a byte-order mark stands before it. -/
theorem advance_eq {l : Layout} {c : Cursor} {ended : Bool}
    (hmark : l.cursor.peek ≠ some (Char.ofNat 0xFEFF))
    (h : skipToToken (l.cursor.rest.length + 1) l.cursor = (c, ended)) :
    l.advance = l.goTo c (l.keyAllowed || (ended && !l.inFlow)) := by
  have hstay : (if l.cursor.index = 0 ∧ l.cursor.peek = some (Char.ofNat 0xFEFF) then
      l.cursor.next else l.cursor) = l.cursor := if_neg fun hand => hmark hand.2
  rw [advance, hstay, h]

/-- At a token there is no way to go. -/
theorem advance_eq_self {l : Layout} (h : ∀ d ∈ l.cursor.rest.head?, StartsToken d) :
    l.advance = l := by
  have hskip : skipToToken (l.cursor.rest.length + 1) l.cursor = (l.cursor, false) :=
    skipToToken_spaces 0 h _
  rw [advance_eq (fun hpeek => (h _ hpeek).ne_mark rfl) hskip, Bool.false_and, Bool.or_false]
  rfl

end Advance

/-! ### Which token comes next -/

/-- No block is closed by what stands inside of all of them. -/
theorem closeBlocks_eq_self {l : Layout} {column : Nat} (h : ∀ i ∈ l.indents.head?, i ≤ column) :
    l.closeBlocks (fun i => decide (column < i)) = l := by
  have hnone : l.indents.takeWhile (fun i => decide (column < i)) = [] := by
    cases hl : l.indents with
    | nil => rfl
    | cons i rest =>
      rw [hl] at h
      have hle : i ≤ column := h i rfl
      rw [List.takeWhile_cons_of_neg (by simpa using hle)]
  rw [closeBlocks]
  split
  · rfl
  · rw [hnone]
    rfl

section Next

variable {l a b : Layout} {t : Text}

/-- What comes next depends on the way to it only. -/
theorem next_congr {l' : Layout} (h : l.advance = l'.advance) : l.next = l'.next := by
  unfold next
  rw [h]

/-- A dash with a space behind it is the dash of an item. -/
theorem next_item (ha : l.advance.dropStale = .ok a)
    (hb : a.closeBlocks (fun i => decide (a.cursor.column < i)) = b)
    (hc : a.cursor.rest = '-' :: ' ' :: t) : l.next = b.item := by
  have hpeek : a.cursor.peek = some '-' := by rw [Cursor.peek, hc]; rfl
  have hgap : isGapOrTab (a.cursor.peekAt 1) = true := by rw [Cursor.peekAt, hc]; rfl
  have hmarker : a.cursor.atMarker = false := by rw [Cursor.atMarker_eq, hc]; rfl
  unfold next
  rw [ha]
  simp [bind, Except.bind, hb, hpeek, hgap, hmarker]

/-- A colon with a space behind it is the colon before a value. -/
theorem next_value (ha : l.advance.dropStale = .ok a)
    (hb : a.closeBlocks (fun i => decide (a.cursor.column < i)) = b)
    (hc : a.cursor.rest = ':' :: ' ' :: t) : l.next = b.value := by
  have hpeek : a.cursor.peek = some ':' := by rw [Cursor.peek, hc]; rfl
  have hgap : isGapOrTab (a.cursor.peekAt 1) = true := by rw [Cursor.peekAt, hc]; rfl
  have hmarker : a.cursor.atMarker = false := by rw [Cursor.atMarker_eq, hc]; rfl
  unfold next
  rw [ha]
  simp [bind, Except.bind, hb, hpeek, hgap, hmarker]

/-- A single quote begins a quoted scalar. -/
theorem next_quoted (ha : l.advance.dropStale = .ok a)
    (hb : a.closeBlocks (fun i => decide (a.cursor.column < i)) = b)
    (hc : a.cursor.rest = '\'' :: t) : l.next = b.quoted false := by
  have hpeek : a.cursor.peek = some '\'' := by rw [Cursor.peek, hc]; rfl
  have hmarker : a.cursor.atMarker = false := by rw [Cursor.atMarker_eq, hc]; rfl
  unfold next
  rw [ha]
  simp [bind, Except.bind, hb, hpeek, hmarker]

/-- A letter begins a plain scalar. -/
theorem next_plain {d : Char} (hd : Letter d) (ha : l.advance.dropStale = .ok a)
    (hb : a.closeBlocks (fun i => decide (a.cursor.column < i)) = b)
    (hc : a.cursor.rest = d :: t) : l.next = b.plain := by
  have hpeek : a.cursor.peek = some d := by rw [Cursor.peek, hc]; rfl
  have hne (e : Char) (he : ¬Letter e) : d ≠ e := hd.ne he
  have hmarker : a.cursor.atMarker = false := by
    rw [Cursor.atMarker_eq, hc]
    simp (disch := decide) [Cursor.atMarker, Cursor.start, hne]
  have hstarts : startsPlain b.inFlow a.cursor = true := by
    rw [startsPlain, hpeek]
    simp (disch := decide) [hd.isGapOrTab_eq_false, hne]
  unfold next
  rw [ha]
  simp (disch := decide) [bind, Except.bind, hb, hpeek, hmarker, hstarts, hne]

/-- Behind the last character the text ends. -/
theorem next_finish (ha : l.advance.dropStale = .ok a)
    (hb : a.closeBlocks (fun i => decide (a.cursor.column < i)) = b)
    (hc : a.cursor.rest = []) : l.next = b.finish := by
  have hpeek : a.cursor.peek = none := by rw [Cursor.peek, hc]; rfl
  unfold next
  rw [ha]
  simp [bind, Except.bind, hb, hpeek]

end Next

/-! ### States -/

/-- The state at a place outside of brackets, where no key is pending. -/
def plainAt (c : Cursor) (keyAllowed : Bool) (indents : List Nat) (settled : List Token) : Layout :=
  ⟨c, 0, indents, keyAllowed, settled, [], false⟩

/-- The state behind a token that may be a key. -/
def keyAt (c : Cursor) (key : PossibleKey) (token : Token) (indents : List Nat)
    (settled : List Token) : Layout :=
  ⟨c, 0, indents, false, settled, [⟨key, [token]⟩], false⟩

section States

variable {c c' : Cursor} {indents : List Nat} {settled : List Token} {keyAllowed : Bool} {t : Text}

theorem dropStale_plainAt :
    (plainAt c keyAllowed indents settled).dropStale = .ok (plainAt c keyAllowed indents settled) :=
  rfl

/-- At a token, nothing is given up on the way. -/
theorem advance_plainAt (h : ∀ d ∈ c.rest.head?, StartsToken d) :
    (plainAt c keyAllowed indents settled).advance.dropStale =
      .ok (plainAt c keyAllowed indents settled) := by
  rw [advance_eq_self h, dropStale_plainAt]

/-- **The way to a token takes no token**: what is read before it is what is read at the token. -/
theorem reads_zero (keyAllowed : Bool) (indents : List Nat) (settled : List Token) {ended : Bool}
    (hmark : c.peek ≠ some (Char.ofNat 0xFEFF))
    (h : skipToToken (c.rest.length + 1) c = (c', ended))
    (hc' : ∀ d ∈ c'.rest.head?, StartsToken d) :
    Reads 0 (plainAt c keyAllowed indents settled)
      (plainAt c' (keyAllowed || ended) indents settled) := by
  have hadvance : (plainAt c keyAllowed indents settled).advance =
      plainAt c' (keyAllowed || ended) indents settled := by
    rw [advance_eq hmark h]
    exact congrArg (fun ended => plainAt c' (keyAllowed || ended) indents settled)
      (Bool.and_true ended)
  have hself : (plainAt c' (keyAllowed || ended) indents settled).advance =
      plainAt c' (keyAllowed || ended) indents settled := advance_eq_self hc'
  -- From both places the same way is left to the token, so the same token comes next.
  intro limit
  cases limit with
  | zero => rfl
  | succ limit =>
    rw [Nat.add_zero, tokensFrom, tokensFrom, dropStale_plainAt, dropStale_plainAt]
    dsimp only
    rw [next_congr (hadvance.trans hself.symm)]
    rfl

/-- A space before a token. -/
theorem reads_space {index line column : Nat} (ht : ∀ d ∈ t.head?, StartsToken d) :
    Reads 0 (plainAt ⟨' ' :: t, index, line, column⟩ keyAllowed indents settled)
      (plainAt ⟨t, index + 1, line, column + 1⟩ keyAllowed indents settled) := by
  have h := reads_zero (c := ⟨' ' :: t, index, line, column⟩) keyAllowed indents settled
    (by rintro ⟨⟩) (skipToToken_spaces 1 ht _) ht
  rwa [Bool.or_false] at h

/-- The end of a line before a token. -/
theorem reads_lineEnd {width index line column : Nat} (ht : LineStart width t) :
    Reads 0
      (plainAt ⟨'\n' :: (List.replicate width ' ' ++ t), index, line, column⟩ keyAllowed indents
        settled)
      (plainAt ⟨t, index + 1 + width, line + 1, width⟩ true indents settled) := by
  have h := reads_zero (c := ⟨'\n' :: (List.replicate width ' ' ++ t), index, line, column⟩)
    keyAllowed indents settled (by rintro ⟨⟩) (skipToToken_lineEnd ht _) ht.head
  rwa [Bool.or_true] at h

/-! ### Items -/

theorem startsToken_dash (t : Text) : ∀ d ∈ ('-' :: t).head?, StartsToken d :=
  StartsToken.head ⟨by decide, by decide, rfl, by decide⟩ t

/-- The dash of the first item opens the sequence. -/
theorem reads_firstItem (t : Text) (index line : Nat) (settled : List Token) :
    Reads 1 (plainAt ⟨'-' :: ' ' :: t, index, line, 0⟩ true [] settled)
      (plainAt ⟨' ' :: t, index + 1, line, 1⟩ true [0] (.item :: .blockSequence :: settled)) :=
  reads_one dropStale_plainAt (next_item (advance_plainAt (startsToken_dash _)) rfl rfl) rfl

/-- The dash of another item closes the mapping in front of it. -/
theorem reads_nextItem (t : Text) (index line : Nat) (settled : List Token) :
    Reads 1 (plainAt ⟨'-' :: ' ' :: t, index, line, 0⟩ true [2, 0] settled)
      (plainAt ⟨' ' :: t, index + 1, line, 1⟩ true [0] (.item :: .blockEnd :: settled)) :=
  reads_one dropStale_plainAt (next_item (advance_plainAt (startsToken_dash _)) rfl rfl) rfl

/-! ### Keys -/

/-- A token that may be a key opens a layer where a key may begin. -/
theorem mayBeKey_allowed {f : Cursor → Except Error (Token × Bool × Cursor)} {token : Token}
    (h : f c = .ok (token, false, c')) (indents : List Nat) (settled : List Token) :
    ∃ required, (plainAt c true indents settled).mayBeKey f =
      .ok (keyAt c' ⟨0, required, c.index, c.line, c.column⟩ token indents settled) := by
  have hmark : ∃ required, (plainAt c true indents settled).markKey =
      .ok ⟨c, 0, indents, true, settled, [⟨⟨0, required, c.index, c.line, c.column⟩, []⟩],
        false⟩ := ⟨_, rfl⟩
  obtain ⟨required, hmark⟩ := hmark
  refine ⟨required, ?_⟩
  rw [mayBeKey, hmark]
  change (f c >>= _) = _
  rw [h]
  rfl

/-- It is a token like others where no key may begin. -/
theorem mayBeKey_plainAt {f : Cursor → Except Error (Token × Bool × Cursor)} {token : Token}
    (h : f c = .ok (token, keyAllowed, c')) (indents : List Nat) (settled : List Token) :
    (plainAt c false indents settled).mayBeKey f =
      .ok (plainAt c' keyAllowed indents (token :: settled)) := by
  change (f c >>= _) = _
  rw [h]
  rfl

theorem startsToken_word {w : Text} (hw : IsWord w) (t : Text) :
    ∀ d ∈ (w ++ t).head?, StartsToken d := by
  obtain ⟨hne, hletters⟩ := hw
  obtain ⟨d, w, rfl⟩ := List.exists_cons_of_ne_nil hne
  rintro e ⟨⟩
  have hd := hletters d List.mem_cons_self
  exact ⟨hd.ne (by decide), hd.ne (by decide), hd.inline.isBreak_eq_false, hd.ne (by decide)⟩

theorem next_plainAt_word {w : Text} (hw : IsWord w) {parent : Nat} (hc : c.rest = w ++ t)
    (hparent : parent ≤ c.column) :
    (plainAt c keyAllowed (parent :: indents) settled).next =
      (plainAt c keyAllowed (parent :: indents) settled).plain := by
  have hstart : ∀ d ∈ c.rest.head?, StartsToken d := by
    rw [hc]
    exact startsToken_word hw t
  obtain ⟨d, w, rfl⟩ := List.exists_cons_of_ne_nil hw.1
  refine next_plain (hw.2 d List.mem_cons_self) (advance_plainAt hstart)
    (closeBlocks_eq_self ?_) hc
  rintro i ⟨⟩
  exact hparent

/-- A word that stands where a key may begin opens a layer. -/
theorem reads_word {w : Text} (hw : IsWord w) {index line column parent : Nat}
    (hparent : parent ≤ column) (t : Text) :
    ∃ required, Reads 1
      (plainAt ⟨w ++ ':' :: ' ' :: t, index, line, column⟩ true (parent :: indents) settled)
      (keyAt ⟨':' :: ' ' :: t, index + w.length, line, column + w.length⟩
        ⟨0, required, index, line, column⟩ (.scalar true w) (parent :: indents) settled) := by
  obtain ⟨required, hkey⟩ := mayBeKey_allowed (c := ⟨w ++ ':' :: ' ' :: t, index, line, column⟩)
    (f := fun c =>
      let st := readPlain false (parent + 1) c
      .ok (.scalar true st.text, st.keyAllowed, st.cursor))
    (by rw [readPlain_key hw t]) (parent :: indents) settled
  exact ⟨required, reads_one dropStale_plainAt
    ((next_plainAt_word hw rfl hparent).trans hkey) rfl⟩

/-- The colon behind a key closes its layer, and opens a mapping if the key stands further right
than the blocks that are open. -/
theorem reads_colon {key : PossibleKey} {token : Token} {parent : Nat}
    (hc : c.rest = ':' :: ' ' :: t) (hdepth : key.depth = 0) (hline : key.line = c.line)
    (hindex : c.index ≤ key.index + 1024) (hparent : parent ≤ c.column) :
    Reads 1 (keyAt c key token (parent :: indents) settled)
      (plainAt c.next false
        (if parent < key.column then key.column :: parent :: indents else parent :: indents)
        (.value :: token :: .key ::
          if parent < key.column then .blockMapping :: settled else settled)) := by
  have hfresh : isStale c key = false := by
    rw [isStale, hline, bne_self_eq_false, Bool.false_or, decide_eq_false_iff_not]
    exact Nat.not_lt.mpr hindex
  have hdrop : (keyAt c key token (parent :: indents) settled).dropStale =
      .ok (keyAt c key token (parent :: indents) settled) := by
    simp [dropStale, keyAt, mergeStale, hfresh]
  have hadvance : (keyAt c key token (parent :: indents) settled).advance =
      keyAt c key token (parent :: indents) settled := by
    refine advance_eq_self ?_
    change ∀ d ∈ c.rest.head?, StartsToken d
    rw [hc]
    exact StartsToken.head ⟨by decide, by decide, rfl, by decide⟩ _
  have hclose : (keyAt c key token (parent :: indents) settled).closeBlocks
      (fun i => decide (c.column < i)) = keyAt c key token (parent :: indents) settled :=
    closeBlocks_eq_self (by rintro i ⟨⟩; exact hparent)
  have hvalue : (keyAt c key token (parent :: indents) settled).value = .ok (plainAt c.next false
      (if parent < key.column then key.column :: parent :: indents else parent :: indents)
      (.value :: token :: .key ::
        if parent < key.column then .blockMapping :: settled else settled)) := by
    have hown : (keyAt c key token (parent :: indents) settled).ownLayer? =
        some (⟨key, [token]⟩, []) := if_pos hdepth
    have hopens : (keyAt c key token (parent :: indents) settled).opensBlock key.column =
        decide (parent < key.column) := by
      simp [opensBlock, inFlow, indent, keyAt]
    rw [value, hown]
    dsimp only
    rw [hopens]
    -- A key further right opens a mapping; one in line with the open mapping is its next key.
    by_cases h : parent < key.column
    · simp only [h, decide_true, if_true]
      rfl
    · simp only [h, decide_false, Bool.false_eq_true, if_false]
      rfl
  exact reads_one hdrop
    ((next_value ((congrArg dropStale hadvance).trans hdrop) hclose hc).trans hvalue) rfl

end States

end Layout

/-! ### Records -/

/-- A scalar that is written on one line. -/
inductive LineScalar where
  /-- A text in single quotes. -/
  | quoted (text : Text)
  /-- A word as it stands. -/
  | word (text : Text)
deriving DecidableEq

namespace LineScalar

/-- How the scalar is written. -/
def spell : LineScalar → Text
  | quoted t => RuleEntry.singleQuoted t
  | word w => w

/-- The token that it is. -/
def token : LineScalar → Token
  | quoted t => .scalar false t
  | word w => .scalar true w

/-- Can it be written on one line? -/
def Fits : LineScalar → Prop
  | quoted t => ∀ c ∈ t, Inline c
  | word w => IsWord w

end LineScalar

/-- A field of a record. -/
structure Field where
  key : Text
  value : LineScalar
deriving DecidableEq

namespace Field

/-- The line of a field, without its indentation. -/
def text (f : Field) : Text :=
  f.key ++ ':' :: ' ' :: (f.value.spell ++ ['\n'])

/-- The tokens of a field. -/
def tokens (f : Field) : List Token :=
  [.key, .scalar true f.key, .value, f.value.token]

/-- **A field that can be written**: its key is a word, and not so long that the colon behind it
would come too late. -/
structure Fits (f : Field) : Prop where
  isWord : IsWord f.key
  length_key : f.key.length ≤ 1024
  value : f.value.Fits

end Field

/-- A record: one field or more. -/
structure Record where
  first : Field
  others : List Field
deriving DecidableEq

namespace Record

/-- The fields in order. -/
def fields (r : Record) : List Field :=
  r.first :: r.others

/-- The lines of a record, the first one with a dash, the others indented below it. -/
def text (r : Record) : Text :=
  '-' :: ' ' :: (r.first.text ++ r.others.flatMap fun f => ' ' :: ' ' :: f.text)

/-- The tokens of a record. -/
def tokens (r : Record) : List Token :=
  .item :: .blockMapping :: (r.fields.flatMap Field.tokens ++ [.blockEnd])

/-- All fields can be written. -/
def Fits (r : Record) : Prop :=
  ∀ f ∈ r.fields, f.Fits

end Record

namespace Layout

variable {indents : List Nat} {settled : List Token} {t : Text}

/-- **A scalar is read to the end of its line**, and on to the next one. -/
theorem reads_scalar {v : LineScalar} (hv : v.Fits) {width column parent : Nat}
    (ht : LineStart width t) (hparent : parent ≤ column + 1) (hwidth : width ≤ parent)
    (index line : Nat) (indents : List Nat) (settled : List Token) :
    ∃ index' line', Reads 1
      (plainAt ⟨' ' :: (v.spell ++ '\n' :: (List.replicate width ' ' ++ t)), index, line, column⟩
        false (parent :: indents) settled)
      (plainAt ⟨t, index', line', width⟩ true (parent :: indents) (v.token :: settled)) := by
  cases v with
  | word w =>
    have hread : readPlain false (parent + 1)
        ⟨w ++ '\n' :: (List.replicate width ' ' ++ t), index + 1, line, column + 1⟩ = _ :=
      readPlain_value hv ht (by omega)
    have hplain := mayBeKey_plainAt
      (c := ⟨w ++ '\n' :: (List.replicate width ' ' ++ t), index + 1, line, column + 1⟩)
      (f := fun c =>
        let st := readPlain false (parent + 1) c
        .ok (.scalar true st.text, st.keyAllowed, st.cursor))
      (by rw [hread]) (parent :: indents) settled
    have hstep := reads_one dropStale_plainAt
      ((next_plainAt_word hv (c := ⟨_, index + 1, line, column + 1⟩) rfl hparent).trans hplain) rfl
    exact ⟨_, _, (reads_space (startsToken_word hv _)).trans hstep⟩
  | quoted p =>
    have hend : ('\n' :: (List.replicate width ' ' ++ t)).head? ≠ some '\'' := by rintro ⟨⟩
    obtain ⟨⟨rest, index', line', column'⟩, hread, hrest, -⟩ := readQuoted_single hv hend
      (c := ⟨_, index + 1, line, column + 1⟩) rfl
    obtain rfl : rest = _ := hrest
    have hquoted := mayBeKey_plainAt
      (c := ⟨RuleEntry.singleQuoted p ++ '\n' :: (List.replicate width ' ' ++ t), index + 1, line,
        column + 1⟩)
      (f := fun c => (readQuoted false c).map fun p => (.scalar false p.1, false, p.2))
      (by rw [hread]; rfl) (parent :: indents) settled
    have hstart : ∀ d ∈ (RuleEntry.singleQuoted p ++
        '\n' :: (List.replicate width ' ' ++ t)).head?, StartsToken d :=
      StartsToken.head ⟨by decide, by decide, rfl, by decide⟩ _
    have hclose : ∀ i ∈ (parent :: indents).head?, i ≤ column + 1 := by
      rintro i ⟨⟩
      exact hparent
    have hstep := reads_one dropStale_plainAt ((next_quoted (advance_plainAt
      (c := ⟨_, index + 1, line, column + 1⟩) hstart) (closeBlocks_eq_self hclose) rfl).trans
      hquoted) rfl
    exact ⟨_, _, ((reads_space hstart).trans hstep).trans (reads_lineEnd ht)⟩

/-- **A key is read with its colon.** Standing further right than the open blocks, it opens a
mapping. -/
theorem reads_key {w : Text} (hw : IsWord w) (hlength : w.length ≤ 1024) {column parent : Nat}
    (hparent : parent ≤ column) (t : Text) (index line : Nat) (indents : List Nat)
    (settled : List Token) :
    Reads 2 (plainAt ⟨w ++ ':' :: ' ' :: t, index, line, column⟩ true (parent :: indents) settled)
      (plainAt ⟨' ' :: t, index + w.length + 1, line, column + w.length + 1⟩ false
        (if parent < column then column :: parent :: indents else parent :: indents)
        (.value :: .scalar true w :: .key ::
          if parent < column then .blockMapping :: settled else settled)) := by
  obtain ⟨required, hword⟩ := reads_word hw hparent t
  exact hword.trans (reads_colon rfl rfl rfl (Nat.add_le_add_left hlength index)
    (Nat.le_add_right_of_le hparent))

/-- The line of a field, whatever its key does to the blocks that are open. -/
theorem reads_fieldLine {f : Field} (hf : f.Fits) {width column index line : Nat}
    (ht : LineStart width t) (hwidth : width ≤ column) {indents inner : List Nat}
    {settled opened : List Token}
    (hkey : Reads 2
      (plainAt ⟨f.key ++ ':' :: ' ' :: (f.value.spell ++ '\n' :: (List.replicate width ' ' ++ t)),
        index, line, column⟩ true indents settled)
      (plainAt ⟨' ' :: (f.value.spell ++ '\n' :: (List.replicate width ' ' ++ t)),
        index + f.key.length + 1, line, column + f.key.length + 1⟩ false (column :: inner)
        (.value :: .scalar true f.key :: .key :: opened))) :
    ∃ index' line', Reads 3
      (plainAt ⟨f.key ++ ':' :: ' ' :: (f.value.spell ++ '\n' :: (List.replicate width ' ' ++ t)),
        index, line, column⟩ true indents settled)
      (plainAt ⟨t, index', line', width⟩ true (column :: inner)
        (f.tokens.reverse ++ opened)) := by
  have hcolumn : column ≤ column + f.key.length + 1 + 1 := by omega
  obtain ⟨index', line', hscalar⟩ := reads_scalar hf.value ht hcolumn hwidth _ line inner _
  exact ⟨index', line', hkey.trans hscalar⟩

/-- The line of a field below another one. -/
theorem reads_field {f : Field} (hf : f.Fits) {width column : Nat} (ht : LineStart width t)
    (hwidth : width ≤ column) (index line : Nat) (indents : List Nat) (settled : List Token) :
    ∃ index' line', Reads 3
      (plainAt ⟨f.key ++ ':' :: ' ' :: (f.value.spell ++ '\n' :: (List.replicate width ' ' ++ t)),
        index, line, column⟩ true (column :: indents) settled)
      (plainAt ⟨t, index', line', width⟩ true (column :: indents)
        (f.tokens.reverse ++ settled)) := by
  have hkey := reads_key hf.isWord hf.length_key (Nat.le_refl column)
    (f.value.spell ++ '\n' :: (List.replicate width ' ' ++ t)) index line indents settled
  rw [if_neg (Nat.lt_irrefl column), if_neg (Nat.lt_irrefl column)] at hkey
  exact reads_fieldLine hf ht hwidth hkey

/-- The line of the first field of a record opens a mapping. -/
theorem reads_firstField {f : Field} (hf : f.Fits) {width column parent : Nat}
    (ht : LineStart width t) (hwidth : width ≤ column) (hparent : parent < column)
    (index line : Nat) (indents : List Nat) (settled : List Token) :
    ∃ index' line', Reads 3
      (plainAt ⟨f.key ++ ':' :: ' ' :: (f.value.spell ++ '\n' :: (List.replicate width ' ' ++ t)),
        index, line, column⟩ true (parent :: indents) settled)
      (plainAt ⟨t, index', line', width⟩ true (column :: parent :: indents)
        (f.tokens.reverse ++ .blockMapping :: settled)) := by
  have hkey := reads_key hf.isWord hf.length_key (Nat.le_of_lt hparent)
    (f.value.spell ++ '\n' :: (List.replicate width ' ' ++ t)) index line indents settled
  rw [if_pos hparent, if_pos hparent] at hkey
  exact reads_fieldLine hf ht hwidth hkey

/-! ### Records, one below the other -/

/-- How far the next line is indented where these fields are left. -/
def leftWidth : List Field → Nat
  | [] => 0
  | _ :: _ => 2

theorem leftWidth_le (fields : List Field) : leftWidth fields ≤ 2 := by
  cases fields with
  | nil => exact Nat.zero_le 2
  | cons => exact Nat.le_refl 2

/-- What is left from the next line on, without its indentation. -/
def leftText (more : Text) : List Field → Text
  | [] => more
  | f :: rest => f.text ++ (rest.flatMap (fun f => ' ' :: ' ' :: f.text) ++ more)

theorem flatMap_text_append (more : Text) (fields : List Field) :
    fields.flatMap (fun f => ' ' :: ' ' :: f.text) ++ more =
      List.replicate (leftWidth fields) ' ' ++ leftText more fields := by
  cases fields with
  | nil => rfl
  | cons f rest => simp [leftWidth, leftText]

theorem text_append_left (f : Field) (more : Text) (rest : List Field) :
    f.text ++ (rest.flatMap (fun f => ' ' :: ' ' :: f.text) ++ more) =
      f.key ++ ':' :: ' ' :: (f.value.spell ++
        '\n' :: (List.replicate (leftWidth rest) ' ' ++ leftText more rest)) := by
  rw [flatMap_text_append, Field.text]
  simp

theorem lineStart_left {more : Text} (hmore : LineStart 0 more) {fields : List Field}
    (h : ∀ f ∈ fields, f.Fits) : LineStart (leftWidth fields) (leftText more fields) := by
  cases fields with
  | nil => exact hmore
  | cons f rest =>
    have hword := (h f List.mem_cons_self).isWord
    refine ⟨?_, rfl⟩
    rw [leftText, Field.text, List.append_assoc]
    exact startsToken_word hword _

/-- **The fields below the first one are read line by line.** -/
theorem reads_fields {more : Text} (hmore : LineStart 0 more) {fields : List Field}
    (h : ∀ f ∈ fields, f.Fits) (index line : Nat) (indents : List Nat) (settled : List Token) :
    ∃ index' line', Reads (3 * fields.length)
      (plainAt ⟨leftText more fields, index, line, leftWidth fields⟩ true (2 :: indents) settled)
      (plainAt ⟨more, index', line', 0⟩ true (2 :: indents)
        ((fields.flatMap Field.tokens).reverse ++ settled)) := by
  induction fields generalizing index line settled with
  | nil => exact ⟨index, line, fun _ => rfl⟩
  | cons f rest ih =>
    obtain ⟨hf, hrest⟩ := List.forall_mem_cons.mp h
    obtain ⟨index', line', hfield⟩ := reads_field hf (lineStart_left hmore hrest)
      (leftWidth_le rest) index line indents settled
    obtain ⟨index'', line'', hfields⟩ := ih hrest index' line' (f.tokens.reverse ++ settled)
    refine ⟨index'', line'', ?_⟩
    have hboth := hfield.trans hfields
    rw [← text_append_left] at hboth
    rw [List.length_cons, Nat.mul_succ, Nat.add_comm, List.flatMap_cons, List.reverse_append,
      List.append_assoc]
    exact hboth

/-- **A record is read from its dash to the next line without indentation.** What the dash itself
does depends on whether a record stands above. -/
theorem reads_record {r : Record} (hr : r.Fits) {more : Text} (hmore : LineStart 0 more)
    {index line : Nat} {indents : List Nat} {settled opened : List Token}
    (hitem : ∀ t, Reads 1 (plainAt ⟨'-' :: ' ' :: t, index, line, 0⟩ true indents settled)
      (plainAt ⟨' ' :: t, index + 1, line, 1⟩ true [0] (.item :: opened))) :
    ∃ index' line', Reads (3 * r.fields.length + 1)
      (plainAt ⟨r.text ++ more, index, line, 0⟩ true indents settled)
      (plainAt ⟨more, index', line', 0⟩ true [2, 0]
        ((.item :: .blockMapping :: r.fields.flatMap Field.tokens).reverse ++ opened)) := by
  obtain ⟨hfirst, hothers⟩ := List.forall_mem_cons.mp hr
  obtain ⟨index', line', hfield⟩ := reads_firstField hfirst (lineStart_left hmore hothers)
    (leftWidth_le r.others) Nat.zero_lt_two (index + 2) line [] (.item :: opened)
  obtain ⟨index'', line'', hfields⟩ := reads_fields hmore hothers index' line' [0]
    (r.first.tokens.reverse ++ .blockMapping :: .item :: opened)
  have htext : r.text ++ more = '-' :: ' ' :: (r.first.key ++ ':' :: ' ' :: (r.first.value.spell ++
      '\n' :: (List.replicate (leftWidth r.others) ' ' ++ leftText more r.others))) := by
    rw [← text_append_left, ← List.append_assoc]
    rfl
  have hcount : 3 * r.fields.length + 1 = 1 + 0 + 3 + 3 * r.others.length := by
    rw [Record.fields, List.length_cons]
    omega
  refine ⟨index'', line'', ?_⟩
  rw [htext, hcount, Record.fields, List.flatMap_cons]
  have hstart := startsToken_word hfirst.isWord (':' :: ' ' :: (r.first.value.spell ++
    '\n' :: (List.replicate (leftWidth r.others) ' ' ++ leftText more r.others)))
  have hall := (((hitem _).trans (reads_space hstart)).trans hfield).trans hfields
  simpa using hall

/-- The text ends behind the last record, which closes the mapping and the sequence. -/
theorem tokensFrom_end (index line limit : Nat) (settled : List Token) :
    (plainAt ⟨[], index, line, 0⟩ true [2, 0] settled).tokensFrom (limit + 1) =
      settled.reverse ++ [.blockEnd, .blockEnd, .endOfText] := by
  have hnext := next_finish (advance_plainAt (c := ⟨[], index, line, 0⟩) nofun) rfl rfl
    (l := plainAt _ true [2, 0] settled)
  rw [tokensFrom, dropStale_plainAt]
  dsimp only
  rw [hnext]
  change (.endOfText :: .blockEnd :: .blockEnd :: settled).reverse = _
  simp

end Layout

/-! ### Sheets -/

/-- The text of a list of records. -/
def sheetText (records : List Record) : Text :=
  records.flatMap Record.text

/-- The tokens of a list of records. -/
def sheetTokens (records : List Record) : List Token :=
  if records = [] then [.endOfText]
  else .blockSequence :: (records.flatMap Record.tokens ++ [.blockEnd, .endOfText])

/-- Below a record stands another one or nothing. -/
theorem lineStart_sheetText (records : List Record) : LineStart 0 (sheetText records) := by
  cases records with
  | nil => exact ⟨nofun, rfl⟩
  | cons r rest => exact ⟨Layout.startsToken_dash _, rfl⟩

theorem sheetText_cons (r : Record) (rest : List Record) :
    sheetText (r :: rest) = r.text ++ sheetText rest :=
  List.flatMap_cons

theorem Field.le_length_text (f : Field) : 3 ≤ f.text.length := by
  simp only [Field.text, List.length_append, List.length_cons, List.length_nil]
  omega

/-- A record has more characters than tokens are read in it. -/
theorem Record.le_length_text (r : Record) : 3 * r.fields.length + 1 ≤ r.text.length := by
  have hothers (fields : List Field) :
      3 * fields.length ≤ (fields.flatMap fun f => ' ' :: ' ' :: f.text).length := by
    induction fields with
    | nil => exact Nat.zero_le _
    | cons f rest ih =>
      have hf := f.le_length_text
      simp only [List.flatMap_cons, List.length_append, List.length_cons]
      omega
  have hfirst := r.first.le_length_text
  have hothers := hothers r.others
  simp only [Record.text, Record.fields, List.length_cons, List.length_append]
  omega

/-! ### The characters of sheets -/

/-- A scalar is written with characters that stand on one line. -/
theorem LineScalar.Fits.inline_of_mem_spell {v : LineScalar} (hv : v.Fits) {c : Char}
    (hc : c ∈ v.spell) : Inline c := by
  cases v with
  | word w => exact (hv.2 c hc).inline
  | quoted t =>
    rw [spell, RuleEntry.singleQuoted, List.mem_append, List.mem_cons, List.mem_singleton,
      List.mem_flatMap] at hc
    rcases hc with (rfl | ⟨d, hd, hc⟩) | rfl
    · decide
    · split at hc
      · next hquote =>
        obtain rfl : c = '\'' := by simpa using hc
        decide
      · obtain rfl := List.mem_singleton.mp hc
        exact hv c hd
    · decide

theorem Field.Fits.inline_of_mem_text {f : Field} (hf : f.Fits) {c : Char} (hc : c ∈ f.text) :
    Inline c ∨ c = '\n' := by
  rw [text, List.mem_append, List.mem_cons, List.mem_cons, List.mem_append,
    List.mem_singleton] at hc
  rcases hc with hkey | rfl | rfl | hspell | hend
  · exact .inl (hf.isWord.2 c hkey).inline
  · exact .inl (by decide)
  · exact .inl (by decide)
  · exact .inl (hf.value.inline_of_mem_spell hspell)
  · exact .inr hend

theorem Record.Fits.inline_of_mem_text {r : Record} (hr : r.Fits) {c : Char} (hc : c ∈ r.text) :
    Inline c ∨ c = '\n' := by
  obtain ⟨hfirst, hothers⟩ := List.forall_mem_cons.mp hr
  rw [text, List.mem_cons, List.mem_cons, List.mem_append, List.mem_flatMap] at hc
  rcases hc with rfl | rfl | hc | ⟨f, hf, hc⟩
  · exact .inl (by decide)
  · exact .inl (by decide)
  · exact hfirst.inline_of_mem_text hc
  · rw [List.mem_cons, List.mem_cons] at hc
    rcases hc with rfl | rfl | hc
    · exact .inl (by decide)
    · exact .inl (by decide)
    · exact (hothers f hf).inline_of_mem_text hc

/-- **A sheet is written with characters that stand on one line**, and the ends of its lines. -/
theorem inline_of_mem_sheetText {records : List Record} (h : ∀ r ∈ records, r.Fits) {c : Char}
    (hc : c ∈ sheetText records) : Inline c ∨ c = '\n' := by
  obtain ⟨r, hr, hc⟩ := List.mem_flatMap.mp hc
  exact (h r hr).inline_of_mem_text hc

/-! ### The tokens of sheets -/

open Layout in
/-- The records below others are read one after the other. -/
theorem tokensFrom_sheetText {records : List Record} (h : ∀ r ∈ records, r.Fits)
    (index line : Nat) (settled : List Token) {limit : Nat}
    (hlimit : (sheetText records).length < limit) :
    (plainAt ⟨sheetText records, index, line, 0⟩ true [2, 0] settled).tokensFrom limit =
      settled.reverse ++ .blockEnd ::
        (records.flatMap Record.tokens ++ [.blockEnd, .endOfText]) := by
  -- A record has more characters than tokens, so the bound is never met.
  induction records generalizing index line settled limit with
  | nil =>
    obtain ⟨limit, rfl⟩ := Nat.exists_eq_add_of_lt hlimit
    exact tokensFrom_end index line _ settled
  | cons r rest ih =>
    obtain ⟨hr, hrest⟩ := List.forall_mem_cons.mp h
    obtain ⟨index', line', hrecord⟩ := reads_record hr (lineStart_sheetText rest)
      (fun t => reads_nextItem t index line settled)
    have hlength := r.le_length_text
    rw [sheetText_cons, List.length_append] at hlimit
    obtain ⟨left, rfl⟩ : ∃ left, limit = left + (3 * r.fields.length + 1) :=
      Nat.exists_eq_add_of_le' (by omega)
    rw [sheetText_cons, hrecord left, ih hrest _ _ _ (by omega)]
    simp [Record.tokens]

open Layout in
/-- **The tokens of a sheet are those of its records**, in the mark of a sequence; there is no
sequence without records. -/
theorem tokens_sheet {records : List Record} (h : ∀ r ∈ records, r.Fits) :
    tokens (sheetText records) = sheetTokens records := by
  have hallowed : (sheetText records).all isAllowed = true := by
    rw [List.all_eq_true]
    intro c hc
    obtain hc | rfl := inline_of_mem_sheetText h hc
    · exact hc.isAllowed
    · rfl
  rw [tokens, if_pos hallowed]
  cases records with
  | nil => rfl
  | cons r rest =>
    obtain ⟨hr, hrest⟩ := List.forall_mem_cons.mp h
    obtain ⟨index', line', hrecord⟩ := reads_record hr (lineStart_sheetText rest)
      (fun t => reads_firstItem t 0 0 [])
    have hlength := r.le_length_text
    obtain ⟨left, hleft⟩ : ∃ left,
        (sheetText (r :: rest)).length + 2 = left + (3 * r.fields.length + 1) :=
      Nat.exists_eq_add_of_le' (by rw [sheetText_cons, List.length_append]; omega)
    have hlimit : (sheetText rest).length < left := by
      rw [sheetText_cons, List.length_append] at hleft
      omega
    rw [hleft, sheetText_cons]
    refine (hrecord left).trans ?_
    rw [tokensFrom_sheetText hrest _ _ _ hlimit, sheetTokens, if_neg (List.cons_ne_nil r rest)]
    simp [Record.tokens]

end Yaml

end Substitution
