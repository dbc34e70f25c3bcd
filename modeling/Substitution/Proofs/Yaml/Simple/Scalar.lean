import Mathlib.Data.List.Infix
import Mathlib.Data.List.TakeWhile
import Substitution.Proofs.Except
import Substitution.Yaml.Numeral
import Substitution.Yaml.Property

/-!
# Simple documents: what is read from a place

A document is **simple** if it has no exclamation mark and no backslash, so that it can give no type
to a node and escape no character, and if it has not too many colons, so that no number in base
sixty has too many places. All that is read from a place in such a document leaves the rest of it
simple, and what can go wrong is little: the rules of the format are broken, or a number in a
directive cannot be read (`Substitution.Yaml.Error.Simple`).

A plain scalar is told from other ones by its text, and there a line feed at the end would make a
difference. It has none, and its colons are among those of the document
(`Substitution.Yaml.readPlain_spec`).
-/

namespace Substitution

namespace Yaml

open Except (Meets)

/-- **A simple text**: no type is given in it, no character is escaped, and its colons are too few
for a number with too many places. -/
structure Simple (t : Text) : Prop where
  marks : ∀ c ∈ t, c ≠ '!' ∧ c ≠ '\\'
  colons : t.count ':' < maxPlaces

theorem Simple.of_isSuffix {s t : Text} (h : Simple t) (hs : s <:+ t) : Simple s :=
  ⟨fun c hc => h.marks c (hs.subset hc), Nat.lt_of_le_of_lt (hs.sublist.count_le ':') h.colons⟩

/-- The text of a plain scalar in a simple document. -/
structure PlainText (t : Text) : Prop where
  last : t.getLast? ≠ some '\n'
  colons : t.count ':' < maxPlaces

theorem plainText_nil : PlainText [] :=
  ⟨nofun, by decide⟩

/-- The faults of a scalar to which no type is given and that escapes no character, if its text is
not too long. -/
def ScalarFault.Simple : ScalarFault → Prop
  | integer .. => True
  | decimal _ => True
  | calendar _ => True
  | _ => False

/-- **What can be wrong with a simple document.** -/
def Error.Simple : Error → Prop
  | malformed => True
  | scalar fault => fault.Simple

/-! ### Places -/

namespace Cursor

/-- What follows the place is simple. -/
def Simple (c : Cursor) : Prop :=
  Yaml.Simple c.rest

variable {c : Cursor}

theorem rest_next (c : Cursor) : c.next.rest = c.rest.tail := by
  rw [next]
  split
  next hrest => rw [hrest, List.tail_nil]
  next d rest hrest => split <;> rw [hrest, List.tail_cons]

theorem next_isSuffix (c : Cursor) : c.next.rest <:+ c.rest := by
  rw [rest_next]
  exact List.tail_suffix c.rest

theorem Simple.next (h : c.Simple) : c.next.Simple :=
  h.of_isSuffix c.next_isSuffix

theorem rest_skip (c : Cursor) (n : Nat) : (c.skip n).rest = c.rest.drop n := by
  induction n generalizing c with
  | zero => rfl
  | succ n ih => rw [skip, ih, rest_next, ← List.drop_one, List.drop_drop, Nat.add_comm]

theorem skip_isSuffix (c : Cursor) (n : Nat) : (c.skip n).rest <:+ c.rest := by
  rw [rest_skip]
  exact List.drop_suffix n c.rest

theorem lineBreak?_isSuffix {b : Char} {c' : Cursor} (h : c.lineBreak? = some (b, c')) :
    c'.rest <:+ c.rest := by
  rw [lineBreak?] at h
  split at h
  next =>
    split at h
    next =>
      obtain ⟨-, rfl⟩ := Prod.mk.inj (Option.some.inj h)
      exact c.next_isSuffix
    next => cases h
  next => cases h

theorem Simple.skip (h : c.Simple) (n : Nat) : (c.skip n).Simple :=
  h.of_isSuffix (c.skip_isSuffix n)

theorem Simple.span (h : c.Simple) (p : Char → Bool) : (c.span p).2.Simple :=
  h.skip _

theorem Simple.skipWhile (h : c.Simple) (p : Char → Bool) : (c.skipWhile p).Simple :=
  h.span p

theorem Simple.skipSpaces (h : c.Simple) : c.skipSpaces.Simple :=
  h.skipWhile _

theorem Simple.skipComment (h : c.Simple) : c.skipComment.Simple := by
  rw [Cursor.skipComment]
  split
  · exact h.skipWhile _
  · exact h

theorem Simple.of_lineBreak? (h : c.Simple) {b : Char} {c' : Cursor}
    (hbreak : c.lineBreak? = some (b, c')) : c'.Simple :=
  h.of_isSuffix (lineBreak?_isSuffix hbreak)

theorem Simple.peek_ne (h : c.Simple) {d : Char} (hd : c.peek = some d) : d ≠ '!' ∧ d ≠ '\\' :=
  h.marks d (List.mem_of_mem_head? hd)

end Cursor

variable {c : Cursor}

/-- A text that has been read, and the place after it in a simple document. -/
abbrev ReadsText (x : Except Error (Text × Cursor)) : Prop :=
  Meets (fun r => r.2.Simple) Error.Simple x

/-! ### Quoted scalars -/

theorem readsText_quotedBreaks (h : c.Simple) (limit : Nat) : ReadsText (quotedBreaks limit c) := by
  induction limit generalizing c with
  | zero => exact .ok h
  | succ limit ih =>
    rw [quotedBreaks]
    split
    next => exact .error trivial
    next =>
      have hskip := h.skipWhile isBlank
      dsimp only
      split
      next => exact .ok hskip
      next b c' hbreak => exact (ih (hskip.of_lineBreak? hbreak)).map fun _ hr => hr

theorem readsText_quotedFrom (h : c.Simple) (double : Bool) (blanks : Text) (limit : Nat) :
    ReadsText (quotedFrom double blanks limit c) := by
  induction limit generalizing c blanks with
  | zero => exact .error trivial
  | succ limit ih =>
    have hafter {c : Cursor} (h : c.Simple) (text : Text) :
        ReadsText ((quotedFrom double [] limit c).map fun r => (text ++ r.1, r.2)) :=
      (ih h []).map fun _ hr => hr
    rw [quotedFrom]
    split
    next => exact .error trivial
    next d rest hrest =>
      have hd : d ≠ '\\' := (h.marks d (hrest ▸ List.mem_cons_self)).2
      dsimp only
      split
      next => exact ih h.next _
      split
      next b c' hbreak =>
        exact (readsText_quotedBreaks (h.of_lineBreak? hbreak) limit).bind fun r hr => hafter hr _
      split
      next =>
        split
        next => exact .ok h.next
        -- No backslash is met.
        next => exact hafter h.next _
      split
      next =>
        split
        next => exact hafter h.next.next _
        next => exact .ok h.next
      next => exact hafter h.next _

theorem readsText_readQuoted (h : c.Simple) (double : Bool) : ReadsText (readQuoted double c) :=
  readsText_quotedFrom h.next double [] _

/-! ### Plain scalars -/

theorem colon_ne_of_lineBreak? {b : Char} {c' : Cursor} (h : c.lineBreak? = some (b, c')) :
    b ≠ ':' := by
  rw [Cursor.lineBreak?] at h
  split at h
  next d rest _ =>
    split at h
    next =>
      obtain ⟨rfl, -⟩ := Prod.mk.inj (Option.some.inj h)
      split
      next hd =>
        rintro rfl
        revert hd
        decide
      next => decide
    next => cases h
  next => cases h

theorem plainBreaks_spec (limit : Nat) : (plainBreaks limit c).2.rest <:+ c.rest ∧
    ∀ gap, (plainBreaks limit c).1 = some gap → ':' ∉ gap := by
  induction limit generalizing c with
  | zero => exact ⟨List.suffix_rfl, fun _ h => Option.some.inj h ▸ List.not_mem_nil⟩
  | succ limit ih =>
    rw [plainBreaks]
    split
    next => exact ⟨List.suffix_rfl, nofun⟩
    next =>
      have hskip : c.skipSpaces.rest <:+ c.rest := c.skip_isSuffix _
      dsimp only
      split
      next => exact ⟨hskip, fun _ h => Option.some.inj h ▸ List.not_mem_nil⟩
      next b c' hbreak =>
        obtain ⟨hrest, hmore⟩ := ih (c := c')
        refine ⟨(hrest.trans (Cursor.lineBreak?_isSuffix hbreak)).trans hskip, fun gap h => ?_⟩
        obtain ⟨more, hsome, rfl⟩ := Option.map_eq_some_iff.mp h
        exact List.not_mem_cons_of_ne_of_not_mem (colon_ne_of_lineBreak? hbreak).symm
          (hmore more hsome)

/-- What separates two runs of a plain scalar has no colons. -/
theorem plainGap_spec (c : Cursor) : (plainGap c).2.2.rest <:+ c.rest ∧
    ∀ gap, (plainGap c).1 = some gap → ':' ∉ gap := by
  have hspan : (c.span (· == ' ')).2.rest <:+ c.rest := c.skip_isSuffix _
  rw [plainGap]
  dsimp only
  split
  next b c' hbreak =>
    obtain ⟨hrest, hmore⟩ := plainBreaks_spec (c'.rest.length + 1) (c := c')
    refine ⟨(hrest.trans (Cursor.lineBreak?_isSuffix hbreak)).trans hspan, fun gap h => ?_⟩
    obtain ⟨more, hsome, rfl⟩ := Option.map_eq_some_iff.mp h
    have hb : ':' ≠ b := (colon_ne_of_lineBreak? hbreak).symm
    rw [fold]
    split
    · simp [hb, hmore more hsome]
    · split <;> simp [hmore more hsome]
  next =>
    refine ⟨hspan, fun gap h => ?_⟩
    split at h
    next => cases h
    next =>
      cases h
      intro hcolon
      exact absurd (List.mem_takeWhile_imp hcolon) (by decide)

/-- A run of a plain scalar holds no line feed. -/
theorem isGapOrTab_of_mem_plainRun {flow : Bool} {t : Text} {c : Char} (h : c ∈ plainRun flow t) :
    isGapOrTab (some c) = false := by
  induction t with
  | nil => cases h
  | cons d rest ih =>
    rw [plainRun] at h
    split at h
    next => cases h
    next hgo =>
      rcases List.mem_cons.mp h with rfl | h
      · simp only [Bool.or_eq_true, not_or, Bool.not_eq_true] at hgo
        exact hgo.1.1
      · exact ih h

/-- A run is what stands at its place. -/
theorem plainRun_isPrefix (flow : Bool) (t : Text) : plainRun flow t <+: t := by
  induction t with
  | nil => exact List.prefix_rfl
  | cons d rest ih =>
    rw [plainRun]
    split
    next => exact List.nil_prefix
    next => exact List.cons_prefix_cons.mpr ⟨rfl, ih⟩

/-- **A plain scalar ends with a run**, so not with a line feed, and its colons and those behind it
are no more than there were before. -/
theorem plainFrom_spec {flow : Bool} {indent : Int} {gap : Text} {st : PlainState}
    (hgap : ':' ∉ gap) (hlast : st.text.getLast? ≠ some '\n') (limit : Nat) :
    let last := plainFrom flow indent gap limit st
    last.cursor.rest <:+ st.cursor.rest ∧ last.text.getLast? ≠ some '\n' ∧
      last.text.count ':' + last.cursor.rest.count ':' ≤
        st.text.count ':' + st.cursor.rest.count ':' := by
  induction limit generalizing st gap with
  | zero => exact ⟨List.suffix_rfl, hlast, Nat.le_refl _⟩
  | succ limit ih =>
    rw [plainFrom]
    split
    next => exact ⟨List.suffix_rfl, hlast, Nat.le_refl _⟩
    next hgo =>
      have hlast' : (st.text ++ gap ++ plainRun flow st.cursor.rest).getLast? ≠ some '\n' := by
        intro hlast
        have hne : plainRun flow st.cursor.rest ≠ [] :=
          fun hnil => hgo (.inr (List.isEmpty_iff.mpr hnil))
        rw [List.getLast?_append_of_ne_nil _ hne] at hlast
        have hbreak := isGapOrTab_of_mem_plainRun (List.mem_of_getLast? hlast)
        revert hbreak
        decide
      have hrun := List.prefix_append_drop (plainRun_isPrefix flow st.cursor.rest)
      generalize plainRun flow st.cursor.rest = run at hlast' hrun ⊢
      have hcount : (st.text ++ gap ++ run).count ':' +
          (st.cursor.skip run.length).rest.count ':' =
            st.text.count ':' + st.cursor.rest.count ':' := by
        rw [Cursor.rest_skip, hrun, List.drop_left, List.count_append, List.count_append,
          List.count_append, List.count_eq_zero.mpr hgap]
        omega
      obtain ⟨hbehind, hcolon⟩ := plainGap_spec (st.cursor.skip run.length)
      have hrest := hbehind.trans (st.cursor.skip_isSuffix _)
      have hcolons := Nat.le_trans (Nat.add_le_add_left (hbehind.sublist.count_le ':') _)
        (Nat.le_of_eq hcount)
      generalize plainGap _ = r at hcolon hrest hcolons ⊢
      obtain ⟨gap', keyAllowed, c⟩ := r
      cases gap' with
      | none => exact ⟨hrest, hlast', hcolons⟩
      | some gap' =>
        dsimp only
        split
        next => exact ⟨hrest, hlast', hcolons⟩
        next =>
          obtain ⟨hrest', hend, hcolons'⟩ := @ih gap' ⟨_, keyAllowed, c⟩ (hcolon gap' rfl) hlast'
          exact ⟨hrest'.trans hrest, hend, Nat.le_trans hcolons' hcolons⟩

theorem readPlain_spec (h : c.Simple) (flow : Bool) (indent : Int) :
    (readPlain flow indent c).cursor.Simple ∧ PlainText (readPlain flow indent c).text := by
  have hnil : ([] : Text).getLast? ≠ some '\n' := nofun
  obtain ⟨hrest, hlast, hcolons⟩ :=
    @plainFrom_spec flow indent [] ⟨[], false, c⟩ List.not_mem_nil hnil (c.rest.length + 1)
  have hless := Nat.le_trans (Nat.le_add_right _ _)
    (Nat.le_trans hcolons (Nat.le_of_eq (Nat.zero_add _)))
  exact ⟨h.of_isSuffix hrest, hlast, Nat.lt_of_le_of_lt hless h.colons⟩

/-! ### Block scalars -/

theorem meets_restOfLine (h : c.Simple) : Meets Cursor.Simple Error.Simple (restOfLine c) := by
  have hskip := h.skipSpaces.skipComment
  rw [restOfLine]
  split
  next =>
    refine .ok ?_
    cases hbreak : c.skipSpaces.skipComment.lineBreak? with
    | none => exact hskip
    | some r => exact hskip.of_lineBreak? hbreak
  next => exact .error trivial

theorem meets_blockIndicators (h : c.Simple) :
    Meets (fun r => r.2.2.Simple) Error.Simple (blockIndicators c) := by
  have hthen (r : Chomping × Option Nat × Cursor) (hr : r.2.2.Simple) :
      Meets (fun r => r.2.2.Simple) Error.Simple
        (if r.2.1 = some 0 ∨ !isGap r.2.2.peek then .error .malformed else .ok r) := by
    split
    · exact .error trivial
    · exact .ok hr
  refine hthen _ ?_
  dsimp only
  -- The place is after none, one or two of the characters.
  repeat' split
  all_goals first | exact h.next.next | exact h.next | exact h

theorem simple_blockStart (h : c.Simple) (limit deepest : Nat) :
    (blockStart limit deepest c).2.2.Simple := by
  induction limit generalizing c deepest with
  | zero => exact h
  | succ limit ih =>
    rw [blockStart]
    dsimp only
    split
    next => exact h.skipSpaces
    next b c' hbreak => exact ih (h.skipSpaces.of_lineBreak? hbreak) _

theorem simple_blockBreaks (h : c.Simple) (indent limit : Nat) :
    (blockBreaks indent limit c).2.Simple := by
  induction limit generalizing c with
  | zero => exact h
  | succ limit ih =>
    have hskip : (skipIndent indent c).Simple := h.skip _
    rw [blockBreaks]
    dsimp only
    split
    next => exact hskip
    next b c' hbreak => exact ih (hskip.of_lineBreak? hbreak)

theorem simple_blockLines (h : c.Simple) (folded : Bool) (indent : Nat) (breaks : Text)
    (limit : Nat) : (blockLines folded indent breaks limit c).2.2.2.Simple := by
  induction limit generalizing c breaks with
  | zero => exact h
  | succ limit ih =>
    rw [blockLines]
    split
    next => exact h
    next =>
      have hline := h.span fun d => !isBreak d
      dsimp only
      split
      next b c' hbreak =>
        have hmore := simple_blockBreaks (hline.of_lineBreak? hbreak) indent
        split
        · exact hmore _
        · exact ih (hmore _) _
      next =>
        have hmore := simple_blockBreaks hline indent
        split
        · exact hmore _
        · exact ih (hmore _) _

theorem readsText_readBlock (h : c.Simple) (folded : Bool) (parent : Int) :
    ReadsText (readBlock folded parent c) := by
  rw [readBlock]
  refine (meets_blockIndicators h.next).bind fun r hr => ?_
  obtain ⟨chomping, increment, place⟩ := r
  refine (meets_restOfLine hr).bind fun place hplace => ?_
  cases increment with
  | none =>
    dsimp only
    refine .ok ?_
    exact simple_blockLines (simple_blockStart hplace _ _) folded _ _ _
  | some n =>
    dsimp only
    refine .ok ?_
    exact simple_blockLines (simple_blockBreaks hplace _ _) folded _ _ _

/-! ### Names and directives -/

theorem readsText_readName (h : c.Simple) : ReadsText (readName c) := by
  have hspan := h.span isNameChar
  rw [readName]
  dsimp only
  split
  · exact .error trivial
  · exact .ok hspan

theorem meets_require (p : Option Char → Bool) (c : Cursor) :
    Meets (fun _ => True) Error.Simple (require p c) := by
  rw [require]
  split
  · exact .ok trivial
  · exact .error trivial

theorem readsText_readAnchor (h : c.Simple) : ReadsText (readAnchor c) :=
  (readsText_readName h.next).bind fun _ hr => (meets_require _ _).bind fun _ _ => .ok hr

theorem meets_versionNumber (h : c.Simple) :
    Meets (fun r => r.2.Simple) Error.Simple (versionNumber c) := by
  have hspan := h.span fun d => '0' ≤ d && d ≤ '9'
  rw [versionNumber]
  dsimp only
  split
  · exact .error trivial
  · split
    · exact .ok hspan
    · exact .error trivial

/-- No tag handle begins in a simple document. -/
theorem readHandle_eq_error (h : c.Simple) : readHandle c = .error .malformed :=
  if_pos fun hpeek => (h.peek_ne hpeek).1 rfl

theorem meets_readDirective (h : c.Simple) :
    Meets (fun r => r.2.Simple) Error.Simple (readDirective c) := by
  rw [readDirective]
  refine (readsText_readName h.next).bind fun r hr => ?_
  refine (meets_require _ _).bind fun _ _ => ?_
  have hend (d : Directive) {c : Cursor} (hc : c.Simple) :
      Meets (fun r => r.2.Simple) Error.Simple ((restOfLine c).map fun c => (d, c)) :=
    (meets_restOfLine hc).map fun _ hc => hc
  dsimp only
  split
  next =>
    refine (meets_versionNumber hr.skipSpaces).bind fun r hr => ?_
    refine (meets_require _ _).bind fun _ _ => ?_
    refine (meets_versionNumber hr.next).bind fun r hr => ?_
    exact (meets_require _ _).bind fun _ _ => hend _ hr
  split
  next =>
    rw [readHandle_eq_error hr.skipSpaces]
    exact .error trivial
  next => exact hend _ (hr.skipWhile _)

end Yaml

end Substitution
