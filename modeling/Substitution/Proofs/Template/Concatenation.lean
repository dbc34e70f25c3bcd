import Substitution.Proofs.Template.Grammar

/-!
# Templates one after the other

The texts of two templates that compile, put one after the other, are the text of a template, with
one exception: if the first text ends in a bare reference and the second one begins with a digit,
the reference takes the digit. Otherwise the two templates stand one after the other in what is
compiled, with the literal segments at the seam joined (`Substitution.Template.join`), and it
renders as they do in turn. This is `Substitution.Template.compile_append`.

The exception is the only place where the second text can change what is read in the first one. All
other tokens know their end: `Substitution.Template.readTokens_spell_row` takes the reader over a
whole row of tokens, and asks about what follows only if the last of them is bare. So the tokens of
both texts are those of the first one and then those of the second one, or else the reader goes over
all tokens in front of the bare reference and then over a longer reference, whose number is another
one.
-/

namespace Substitution

namespace Template

/-! ### Rows of tokens -/

/-- Is the last of the tokens a bare reference? -/
def EndsBare (row : List Token) : Prop :=
  ∃ before number, row = before ++ [.reference number false]

theorem EndsBare.cons {row : List Token} (h : EndsBare row) (token : Token) :
    EndsBare (token :: row) := by
  obtain ⟨before, number, rfl⟩ := h
  exact ⟨token :: before, number, rfl⟩

theorem Token.IsBare.endsBare {token : Token} (h : token.IsBare) : EndsBare [token] := by
  rcases token with c | c | ⟨number, _ | _⟩
  · exact h.elim
  · exact h.elim
  · exact ⟨[], number, rfl⟩
  · exact h.elim

theorem Token.spell_ne_nil (token : Token) : token.spell ≠ [] := by
  rcases token with c | c | ⟨number, _ | _⟩ <;> exact List.cons_ne_nil _ _

/-- Where a text begins is not changed by what is put behind it. -/
theorem beginsWithDigit_append_iff {u : Text} (hu : u ≠ []) (rest : Text) :
    BeginsWithDigit (u ++ rest) ↔ BeginsWithDigit u := by
  cases u with
  | nil => exact absurd rfl hu
  | cons c u => exact Iff.rfl

theorem spell_append (x y : List Token) : spell (x ++ y) = spell x ++ spell y :=
  List.flatMap_append

/-- What follows a bare reference in a row is what the row goes on with, and behind the last token
what stands behind the row. -/
theorem not_beginsWithDigit_behind {token : Token} {row : List Token} {rest : Text}
    (hrow : token.IsBare → ¬BeginsWithDigit (spell row))
    (hrest : EndsBare (token :: row) → ¬BeginsWithDigit rest) :
    token.IsBare → ¬BeginsWithDigit (spell row ++ rest) := by
  intro hbare
  cases row with
  | nil => exact hrest hbare.endsBare
  | cons next row =>
    have hne : spell (next :: row) ≠ [] :=
      List.append_ne_nil_of_left_ne_nil next.spell_ne_nil _
    rw [beginsWithDigit_append_iff hne]
    exact hrow hbare

/-- **The reader goes over a row of tokens as a whole**, and asks what follows only if the last of
them is bare. -/
theorem readTokens_spell_row (template : Text) {row : List Token} (h : Readable row) {rest : Text}
    (hrest : EndsBare row → ¬BeginsWithDigit rest) (p : Nat) :
    readTokens template .text p (spell row ++ rest) =
      (readTokens template .text (p + (spell row).length) rest).map (row ++ ·) := by
  induction row generalizing p with
  | nil =>
    rw [spell_nil, List.nil_append, List.length_nil, Nat.add_zero]
    cases readTokens template .text p rest <;> rfl
  | cons token row ih =>
    obtain ⟨hwf, hbare, hrow⟩ := h
    rw [spell_cons, List.append_assoc,
      readTokens_spell_append template hwf (not_beginsWithDigit_behind hbare hrest),
      ih hrow fun hends => hrest (hends.cons token), List.length_append, Nat.add_assoc]
    cases readTokens template .text _ rest <;> rfl

/-- **Two rows of tokens can be read one after the other** if each of them can, and no digit follows
a bare reference at the seam. -/
theorem readable_append_iff {x y : List Token} :
    Readable (x ++ y) ↔ Readable x ∧ Readable y ∧ (EndsBare x → ¬BeginsWithDigit (spell y)) := by
  induction x with
  | nil =>
    have hnil : ¬EndsBare [] := by
      rintro ⟨before, number, h⟩
      exact List.append_ne_nil_of_right_ne_nil before (List.cons_ne_nil _ _) h.symm
    exact ⟨fun h => ⟨trivial, h, fun hends => absurd hends hnil⟩, fun h => h.2.1⟩
  | cons token x ih =>
    rw [List.cons_append, Readable, spell_append, ih, Readable]
    constructor
    · rintro ⟨hwf, hbare, hx, hy, hseam⟩
      refine ⟨⟨hwf, fun hisBare => ?_, hx⟩, hy, ?_⟩
      · intro hdigit
        refine hbare hisBare ?_
        cases x with
        | nil => exact hdigit.elim
        | cons next x =>
          exact (beginsWithDigit_append_iff
            (List.append_ne_nil_of_left_ne_nil next.spell_ne_nil _) _).mpr hdigit
      · rintro ⟨before, number, hends⟩
        cases before with
        | nil =>
          obtain ⟨rfl, rfl⟩ := List.cons.inj hends
          exact hbare trivial
        | cons first before =>
          obtain ⟨rfl, rfl⟩ := List.cons.inj hends
          exact hseam ⟨before, number, rfl⟩
    · rintro ⟨⟨hwf, hbare, hx⟩, hy, hseam⟩
      exact ⟨hwf, not_beginsWithDigit_behind hbare hseam, hx, hy,
        fun hends => hseam (hends.cons token)⟩

/-! ### Segments one after the other -/

/-- Segments and then others, the literal segments at the seam joined. -/
def joinSegments : List Segment → List Segment → List Segment
  | [], b => b
  | [.literal x], .literal y :: b => .literal (x ++ y) :: b
  | segment :: a, b => segment :: joinSegments a b

/-- One template and then another, the literal segments at the seam joined. -/
def join (s t : Template) : Template :=
  ⟨joinSegments s.segments t.segments⟩

theorem foldr_pushSegment_pushSegment (segment : Segment) (a b : List Segment) :
    (pushSegment segment a).foldr pushSegment b = pushSegment segment (a.foldr pushSegment b) :=
  pushSegment_eq_of_literal (f := fun l => l.foldr pushSegment b)
    (fun _ => pushSegment_literal_nil _) (fun x y _ => pushSegment_literal_append x y _) segment a

/-- **What two rows of tokens stand for**, one after the other: the segments of the first one put in
front of those of the second one. -/
theorem segmentsOf_append (x y : List Token) :
    segmentsOf (x ++ y) = (segmentsOf x).foldr pushSegment (segmentsOf y) := by
  induction x with
  | nil => rfl
  | cons token x ih =>
    rw [List.cons_append]
    cases token with
    | plain c =>
      rw [segmentsOf, segmentsOf, ih, pushChar_eq, pushChar_eq, foldr_pushSegment_pushSegment]
    | escaped c =>
      rw [segmentsOf, segmentsOf, ih, pushChar_eq, pushChar_eq, foldr_pushSegment_pushSegment]
    | reference number braced =>
      rw [segmentsOf, segmentsOf, ih, List.foldr_cons, pushSegment_reference]

/-- Segments that begin with literal text begin with literal text in front of others too, and those
that do not, do not. -/
theorem exists_foldr_pushSegment_eq {a b : List Segment} {next : Segment}
    (ha : IsNormal ⟨next :: a⟩) :
    ∃ first rest, (next :: a).foldr pushSegment b = first :: rest ∧
      first.isLiteral = next.isLiteral := by
  obtain ⟨hnext, -, -⟩ := isNormal_cons_iff.mp ha
  rw [List.foldr_cons]
  cases next with
  | reference index => exact ⟨_, _, pushSegment_reference index _, rfl⟩
  | literal text =>
    cases text with
    | nil => exact absurd rfl hnext
    | cons c text =>
      cases a.foldr pushSegment b with
      | nil => exact ⟨_, _, rfl, rfl⟩
      | cons first rest => cases first <;> exact ⟨_, _, rfl, rfl⟩

/-- **In normal form, segments are put in front of others by joining at the seam.** -/
theorem joinSegments_eq {a : List Segment} (ha : IsNormal ⟨a⟩) (b : List Segment) :
    joinSegments a b = a.foldr pushSegment b := by
  induction a with
  | nil => rfl
  | cons segment a ih =>
    obtain ⟨hsegment, hhead, hrest⟩ := isNormal_cons_iff.mp ha
    cases a with
    | nil =>
      cases segment with
      | reference index => rw [List.foldr_cons, pushSegment_reference]; rfl
      | literal x =>
        cases x with
        | nil => exact absurd rfl hsegment
        | cons c x =>
          cases b with
          | nil => rfl
          | cons next b => cases next <;> rfl
    | cons next a =>
      obtain ⟨first, rest, hfirst, hliteral⟩ := exists_foldr_pushSegment_eq (b := b) hrest
      have hjoin : joinSegments (segment :: next :: a) b =
          segment :: joinSegments (next :: a) b := by
        cases segment <;> rfl
      have hfoldr : (segment :: next :: a).foldr pushSegment b =
          pushSegment segment ((next :: a).foldr pushSegment b) := rfl
      rw [hjoin, ih hrest, hfoldr, hfirst]
      refine (pushSegment_eq_cons hsegment fun s hs hboth => ?_).symm
      obtain rfl : first = s := Option.some.inj hs
      exact hhead next rfl ⟨hboth.1, hliteral ▸ hboth.2⟩

theorem joinSegments_reference {a : List Segment} {index : Nat} {b : List Segment} :
    joinSegments a (.reference index :: b) = a ++ .reference index :: b := by
  induction a with
  | nil => rfl
  | cons segment a ih =>
    have hjoin : joinSegments (segment :: a) (.reference index :: b) =
        segment :: joinSegments a (.reference index :: b) := by
      cases segment <;> cases a <;> rfl
    rw [hjoin, ih, List.cons_append]

/-! ### Rendering one after the other -/

theorem render_append (a b : List Segment) (captures : List Text) :
    render ⟨a ++ b⟩ captures =
      render ⟨a⟩ captures >>= fun x => (render ⟨b⟩ captures).map (x ++ ·) := by
  induction a with
  | nil =>
    have hnil : render ⟨[]⟩ captures = .ok [] := rfl
    rw [hnil, List.nil_append]
    cases render ⟨b⟩ captures <;> rfl
  | cons segment a ih =>
    rw [List.cons_append, render_cons, render_cons, ih]
    cases segment.render captures with
    | error e => rfl
    | ok x =>
      cases render ⟨a⟩ captures with
      | error e => rfl
      | ok y =>
        cases render ⟨b⟩ captures with
        | error e => rfl
        | ok z => exact congrArg Except.ok (List.append_assoc x y z).symm

theorem render_foldr_pushSegment (a b : List Segment) (captures : List Text) :
    render ⟨a.foldr pushSegment b⟩ captures = render ⟨a ++ b⟩ captures := by
  induction a with
  | nil => rfl
  | cons segment a ih =>
    rw [List.foldr_cons, render_pushSegment, List.cons_append, render_cons, render_cons, ih]

/-- **Templates that are joined render in turn.** -/
theorem render_join {s : Template} (hs : s.IsNormal) (t : Template) (captures : List Text) :
    (s.join t).render captures =
      s.render captures >>= fun x => (t.render captures).map (x ++ ·) := by
  rw [join, joinSegments_eq hs, render_foldr_pushSegment, render_append]

/-! ### The seam -/

/-- **A text that ends in a bare reference**: the last of its tokens is one. -/
def EndsWithBare (t : Text) : Prop :=
  ∃ row, tokens t = .ok row ∧ EndsBare row

/-- Where no digit is taken at the seam, the tokens of two texts come one after the other. -/
theorem tokens_append {a b : Text} {x y : List Token} (ha : tokens a = .ok x)
    (hb : tokens b = .ok y) (hseam : ¬(EndsWithBare a ∧ BeginsWithDigit b)) :
    tokens (a ++ b) = .ok (x ++ y) := by
  obtain ⟨hx, hspellx⟩ := tokens_eq_ok_iff.mp ha
  obtain ⟨hy, hspelly⟩ := tokens_eq_ok_iff.mp hb
  refine tokens_eq_ok_iff.mpr ⟨readable_append_iff.mpr ⟨hx, hy, fun hends hdigit => ?_⟩, ?_⟩
  · exact hseam ⟨⟨x, ha, hends⟩, hspelly ▸ hdigit⟩
  · rw [spell_append, hspellx, hspelly]

theorem ofTokens_append (x y : List Token) :
    ofTokens (x ++ y) = (ofTokens x).join (ofTokens y) :=
  congrArg mk ((segmentsOf_append x y).trans (joinSegments_eq (isNormal_ofTokens x) _).symm)

theorem not_beginsWithDigit_dollar (rest : Text) : ¬BeginsWithDigit ('$' :: rest) :=
  fun h => absurd h.1 (by decide)

/-- What begins as a bare reference does is read as one. -/
theorem exists_reference_of_spell {n : Nat} (hn : 0 < n) {row : List Token} {b : Text}
    (hrow : Readable row) (hspell : spell row = '$' :: (Text.decimal n ++ b)) :
    ∃ m rest, row = .reference m false :: rest ∧ 0 < m ∧ ¬BeginsWithDigit (spell rest) ∧
      Text.decimal m ++ spell rest = Text.decimal n ++ b := by
  cases row with
  | nil => cases hspell
  | cons token rest =>
    obtain ⟨hwf, hbare, -⟩ := hrow
    rw [spell_cons] at hspell
    rcases token with c | c | ⟨m, _ | _⟩
    · exact absurd (List.cons.inj hspell).1 hwf.2
    · exact absurd (List.cons.inj hspell).1 (by decide)
    · exact ⟨m, rest, rfl, hwf.1, hbare trivial, (List.cons.inj hspell).2⟩
    -- A numeral does not begin with a brace.
    · have hnumeral := isNumeral_decimal hn
      have hbrace := (List.cons.inj hspell).2
      cases hdecimal : Text.decimal n with
      | nil =>
        rw [hdecimal] at hnumeral
        exact hnumeral.elim
      | cons c digits =>
        rw [hdecimal] at hnumeral hbrace
        obtain rfl : '{' = c := (List.cons.inj hbrace).1
        exact absurd hnumeral.1 (by decide)

/-- **A digit at the seam makes another reference**: whatever is read in front of the bare reference
is read again, and then a reference whose number is another one. -/
theorem exists_tokens_of_digit {before read : List Token} {n : Nat} {b : Text}
    (hbefore : Readable (before ++ [.reference n false])) (hdigit : BeginsWithDigit b)
    (hread : tokens (spell (before ++ [.reference n false]) ++ b) = .ok read) :
    ∃ m rest, read = before ++ .reference m false :: rest ∧ m - 1 ≠ n - 1 := by
  obtain ⟨hrow, ⟨hwf, -, -⟩, hseam⟩ := readable_append_iff.mp hbefore
  have hsplit : spell (before ++ [.reference n false]) ++ b =
      spell before ++ '$' :: (Text.decimal n ++ b) := by
    rw [spell_append, List.append_assoc, spell_cons, spell_nil, List.append_nil, Token.spell,
      List.cons_append]
  rw [tokens, hsplit, readTokens_spell_row _ hrow fun _ => not_beginsWithDigit_dollar _] at hread
  obtain ⟨row, hrow, rfl⟩ := Except.map_eq_ok_iff.mp hread
  obtain ⟨hreadable, hspell⟩ := spelled _ _ .text _ row trivial hrow
  obtain ⟨m, rest, rfl, hm, hrest, hdecimal⟩ :=
    exists_reference_of_spell hwf.1 hreadable hspell
  refine ⟨m, rest, rfl, fun heq => ?_⟩
  have hn : 0 < n := hwf.1
  obtain rfl : m = n := by omega
  exact hrest (List.append_cancel_left hdecimal ▸ hdigit)

/-- **What compiles across a digit at the seam is not the two templates joined.** -/
theorem compile_append_ne {a b : Text} {s t : Template} (ha : compile a = .ok s)
    (hb : compile b = .ok t) (hends : EndsWithBare a) (hdigit : BeginsWithDigit b) :
    compile (a ++ b) ≠ .ok (s.join t) := by
  obtain ⟨_, hrow, before, n, rfl⟩ := hends
  obtain ⟨hreadable, rfl⟩ := tokens_eq_ok_iff.mp hrow
  obtain ⟨x, hx, rfl⟩ := Except.map_eq_ok_iff.mp ha
  obtain ⟨y, hy, rfl⟩ := Except.map_eq_ok_iff.mp hb
  obtain rfl : before ++ [.reference n false] = x := Except.ok.inj (hrow.symm.trans hx)
  intro h
  obtain ⟨read, hread, hsegments⟩ := Except.map_eq_ok_iff.mp h
  obtain ⟨m, rest, rfl, hne⟩ := exists_tokens_of_digit hreadable hdigit hread
  -- Both rows of segments go on with a reference behind those of `before`.
  rw [← ofTokens_append, List.append_assoc, ofTokens_append, ofTokens_append] at hsegments
  have hrows := congrArg segments hsegments
  change joinSegments (segmentsOf before) (.reference (m - 1) :: segmentsOf rest) =
    joinSegments (segmentsOf before) (.reference (n - 1) :: segmentsOf y) at hrows
  rw [joinSegments_reference, joinSegments_reference] at hrows
  exact hne (Segment.reference.inj (List.cons.inj (List.append_cancel_left hrows)).1)

/-- **Templates one after the other.** The texts of two templates, one after the other, compile to
the two templates joined, unless the first text ends in a bare reference and the second one begins
with a digit; then they do not. What is compiled renders as the two templates do in turn: it gives
their texts one after the other, and fails with the error of the first of them that fails. -/
theorem compile_append {a b : Text} {s t : Template} (ha : compile a = .ok s)
    (hb : compile b = .ok t) :
    (compile (a ++ b) = .ok (s.join t) ↔ ¬(EndsWithBare a ∧ BeginsWithDigit b)) ∧
    (¬(EndsWithBare a ∧ BeginsWithDigit b) → ∃ both, compile (a ++ b) = .ok both ∧
      ∀ captures,
        (∀ x y, s.render captures = .ok x → t.render captures = .ok y →
          both.render captures = .ok (x ++ y)) ∧
        ∀ e, both.render captures = .error e ↔
          s.render captures = .error e ∨
            ∃ x, s.render captures = .ok x ∧ t.render captures = .error e) := by
  have hjoin : ¬(EndsWithBare a ∧ BeginsWithDigit b) → compile (a ++ b) = .ok (s.join t) := by
    intro hseam
    obtain ⟨x, hx, rfl⟩ := Except.map_eq_ok_iff.mp ha
    obtain ⟨y, hy, rfl⟩ := Except.map_eq_ok_iff.mp hb
    rw [compile, tokens_append hx hy hseam, ← ofTokens_append]
    rfl
  refine ⟨⟨fun h hseam => compile_append_ne ha hb hseam.1 hseam.2 h, hjoin⟩,
    fun hseam => ⟨s.join t, hjoin hseam, fun captures => ?_⟩⟩
  rw [render_join (isNormal_of_compile ha)]
  refine ⟨fun x y hx hy => ?_, fun e => ?_⟩
  · rw [hx, hy]
    rfl
  · rw [Except.bind_eq_error_iff]
    simp only [Except.map_eq_error_iff]

/-- Literal text is joined across the seam; a digit behind a bare reference makes another template,
and behind a braced one it does not. -/
theorem compile_append_digit :
    compile ("$1a".toList ++ "\\$".toList) = .ok ⟨[.reference 0, .literal "a$".toList]⟩ ∧
      compile ("$1".toList ++ "2".toList) ≠ .ok ⟨[.reference 0, .literal ['2']]⟩ ∧
      compile ("$\x7b1\x7d".toList ++ "2".toList) = .ok ⟨[.reference 0, .literal ['2']]⟩ := by
  have hleft := compile_append (a := "$1a".toList) (b := "\\$".toList) rfl rfl
  have hbare := compile_append (a := "$1".toList) (b := "2".toList) rfl rfl
  have hbraced := compile_append (a := "$\x7b1\x7d".toList) (b := "2".toList) rfl rfl
  refine ⟨hleft.1.mpr fun h => absurd h.2 (by decide), fun h => ?_, hbraced.1.mpr ?_⟩
  · exact hbare.1.mp h ⟨⟨_, rfl, [], 1, rfl⟩, by decide⟩
  · rintro ⟨⟨row, hrow, before, number, rfl⟩, -⟩
    have hrow : [Token.reference 1 true] = before ++ [.reference number false] :=
      Except.ok.inj hrow
    cases (List.append_inj_right' (show [] ++ [Token.reference 1 true] = _ from hrow) rfl)

end Template

end Substitution
