import Mathlib.Data.List.Infix
import Mathlib.Data.List.TakeWhile
import Substitution.Console.Markup

/-!
# What a console shows of an escaped text

A text falls in one way into stretches without a tag and the tags between them
(`Substitution.Console.Cut`), and reading a text piece by piece finds just these
(`Substitution.Console.Cut.pieces_eq`). Escaping adds backslashes before the tags and nowhere else,
so an escaped text falls into the same stretches and tags. This is why no tag of the text is lost,
and why the backslashes before it come back as they were
(`Substitution.Console.shown_escape`).

The stretches between the tags are not protected: names of pictographs are replaced in them, and a
backslash before a bracket goes. A text without either is shown as it is
(`Substitution.Console.ShownAsIs.flatMap_kept`).
-/

namespace Substitution

namespace Console

/-! ### Tags -/

/-- May a tag begin with this character? -/
def OpensTag (c : Char) : Prop :=
  ('a' ≤ c ∧ c ≤ 'z') ∨ c = '#' ∨ c = '/' ∨ c = '@'

/-- **A tag**: a bracket, a character that a tag may begin with, text without brackets, and the
closing bracket. -/
def IsTag (s : Text) : Prop :=
  ∃ c inner, OpensTag c ∧ (∀ d ∈ inner, d ≠ '[' ∧ d ≠ ']') ∧ s = '[' :: c :: inner ++ [']']

theorem opensTag_iff {c : Char} :
    (('a' ≤ c && c ≤ 'z') || c == '#' || c == '/' || c == '@') = true ↔ OpensTag c := by
  simp only [OpensTag, Bool.or_eq_true, Bool.and_eq_true, decide_eq_true_eq, beq_iff_eq, or_assoc]

/-- **The tag at the start of a text** is the one that the text goes on from. -/
theorem tag?_eq_some_iff {t s rest : Text} :
    tag? t = some (s, rest) ↔ IsTag s ∧ t = s ++ rest := by
  constructor
  · intro h
    unfold tag? at h
    split at h
    next c body =>
      split at h
      next hopens =>
        have hbody := List.takeWhile_append_dropWhile (l := body)
          (p := fun d => d != '[' && d != ']')
        have hdrop := @List.drop_left _ (body.takeWhile fun d => d != '[' && d != ']')
          (body.dropWhile fun d => d != '[' && d != ']')
        rw [hbody] at hdrop
        dsimp only at h
        rw [hdrop] at h
        split at h
        next after hafter =>
          obtain ⟨rfl, rfl⟩ := Prod.mk.inj (Option.some.inj h)
          rw [hafter] at hbody
          refine ⟨⟨c, _, opensTag_iff.mp hopens, fun d hd => ?_, rfl⟩, ?_⟩
          · simpa using List.mem_takeWhile_imp hd
          · rw [List.append_assoc]
            exact congrArg ('[' :: c :: ·) hbody.symm
        next => cases h
      next => cases h
    next => cases h
  · rintro ⟨⟨c, inner, hopens, hinner, rfl⟩, rfl⟩
    have htake : (inner ++ ']' :: rest).takeWhile (fun d => d != '[' && d != ']') = inner := by
      rw [List.takeWhile_append_of_pos fun d hd => by simpa using hinner d hd,
        List.takeWhile_cons_of_neg (by decide), List.append_nil]
    have ht : '[' :: c :: inner ++ [']'] ++ rest = '[' :: c :: (inner ++ ']' :: rest) := by
      rw [List.append_assoc]
      rfl
    rw [ht, tag?, if_pos (opensTag_iff.mpr hopens)]
    dsimp only
    rw [htake, List.drop_left]
    rfl

theorem tag?_eq_none_iff {t : Text} : tag? t = none ↔ ∀ s, IsTag s → ¬s <+: t := by
  constructor
  · rintro h s hs ⟨rest, rfl⟩
    rw [tag?_eq_some_iff.mpr ⟨hs, rfl⟩] at h
    cases h
  · intro h
    cases htag : tag? t with
    | none => rfl
    | some p =>
      obtain ⟨hs, ht⟩ := tag?_eq_some_iff.mp htag
      exact absurd ⟨p.2, ht.symm⟩ (h p.1 hs)

/-- After its first bracket a tag holds no opening one, and it ends with a closing one. -/
theorem IsTag.exists_body {s : Text} (h : IsTag s) :
    ∃ body, s = '[' :: body ∧ '[' ∉ body ∧ body.getLast? = some ']' := by
  obtain ⟨c, inner, hopens, hinner, rfl⟩ := h
  refine ⟨c :: inner ++ [']'], rfl, fun hmem => ?_, List.getLast?_concat⟩
  rcases List.mem_append.mp hmem with hmem | hmem
  · rcases List.mem_cons.mp hmem with rfl | hmem
    · revert hopens
      unfold OpensTag
      decide
    · exact (hinner _ hmem).1 rfl
  · revert hmem
    decide

theorem IsTag.getLast? {s : Text} (h : IsTag s) : s.getLast? = some ']' := by
  obtain ⟨c, inner, -, -, rfl⟩ := h
  exact List.getLast?_concat

theorem IsTag.ne_nil {s : Text} (h : IsTag s) : s ≠ [] := by
  obtain ⟨body, rfl, -⟩ := h.exists_body
  exact List.cons_ne_nil _ _

/-- **A tag does not reach over a bracket**: one that begins before some backslashes and a bracket
ends before them. -/
theorem IsTag.isPrefix_of_bracket {s u w : Text} {n : Nat} (h : IsTag s) (hu : u ≠ [])
    (hs : s <+: u ++ (List.replicate n '\\' ++ '[' :: w)) : s <+: u := by
  obtain ⟨rest, hrest⟩ := hs
  rcases List.append_eq_append_iff.mp hrest with ⟨v, rfl, -⟩ | ⟨v, rfl, hv⟩
  · exact List.prefix_append s v
  -- Otherwise the tag ends in some of the backslashes, and with one, since no bracket can be in it.
  · obtain ⟨body, hbody, hbracket, hlast⟩ := h.exists_body
    cases u with
    | nil => exact absurd rfl hu
    | cons c u =>
      obtain ⟨-, rfl⟩ := List.cons.inj hbody
      have hnot : '[' ∉ v := fun hmem => hbracket (List.mem_append_right _ hmem)
      have hprefix : v <+: List.replicate n '\\' := by
        rcases List.append_eq_append_iff.mp hv with ⟨x, hx, hcons⟩ | ⟨x, hx, -⟩
        · cases x with
          | nil => exact ⟨[], by rw [List.append_nil, hx, List.append_nil]⟩
          | cons b x =>
            obtain ⟨rfl, -⟩ := List.cons.inj hcons
            exact absurd (hx ▸ List.mem_append_right _ List.mem_cons_self) hnot
        · exact ⟨x, hx.symm⟩
      cases v using List.reverseRecOn with
      | nil => rw [List.append_nil]
      | append_singleton v b _ =>
        have hlast : (u ++ (v ++ [b])).getLast? = some ']' := hlast
        rw [← List.append_assoc, List.getLast?_concat] at hlast
        have hmem : b ∈ List.replicate n '\\' := hprefix.subset (List.mem_append_right _ (.head _))
        rw [List.eq_of_mem_replicate hmem] at hlast
        cases hlast

/-! ### Pieces -/

/-- No tag is in the text. -/
def Untagged (t : Text) : Prop :=
  ∀ s, IsTag s → ¬s <:+: t

theorem Untagged.of_isInfix {s t : Text} (h : Untagged t) (hs : s <:+: t) : Untagged s :=
  fun tag htag hin => h tag htag (hin.trans hs)

/-- **How a text falls into pieces**: stretches without a tag, and the tags between them, each with
all of the backslashes before it. -/
inductive Cut : Text → List Piece → Prop
  | plain {t : Text} : Untagged t → Cut t [.plain t]
  | tag {u s t : Text} {n : Nat} {ps : List Piece} : Untagged u → u.getLast? ≠ some '\\' →
      IsTag s → Cut t ps →
      Cut (u ++ List.replicate n '\\' ++ (s ++ t)) (.plain u :: .tag n s :: ps)

theorem exists_backslashes (t : Text) :
    ∃ u n, t = u ++ List.replicate n '\\' ∧ u.getLast? ≠ some '\\' := by
  induction t using List.reverseRecOn with
  | nil => exact ⟨[], 0, rfl, nofun⟩
  | append_singleton t c ih =>
    by_cases hc : c = '\\'
    · obtain ⟨u, n, rfl, hu⟩ := ih
      refine ⟨u, n + 1, ?_, hu⟩
      rw [hc, List.replicate_succ', List.append_assoc]
    · refine ⟨t ++ [c], 0, (List.append_nil _).symm, ?_⟩
      rw [List.getLast?_concat]
      exact fun h => hc (Option.some.inj h)

/-- Copies of a character at the end of a text are told from what is before them, if that ends with
another one. -/
theorem eq_of_append_replicate {c : Char} {u v : Text} {m n : Nat} (hu : u.getLast? ≠ some c)
    (hv : v.getLast? ≠ some c) (h : u ++ List.replicate m c = v ++ List.replicate n c) :
    u = v ∧ m = n := by
  induction m generalizing n with
  | zero =>
    cases n with
    | zero => simpa using h
    | succ n =>
      rw [List.replicate_zero, List.append_nil, List.replicate_succ', ← List.append_assoc] at h
      rw [h, List.getLast?_concat] at hu
      exact absurd rfl hu
  | succ m ih =>
    cases n with
    | zero =>
      rw [List.replicate_zero, List.append_nil, List.replicate_succ', ← List.append_assoc] at h
      rw [← h, List.getLast?_concat] at hv
      exact absurd rfl hv
    | succ n =>
      rw [List.replicate_succ', List.replicate_succ', ← List.append_assoc, ← List.append_assoc] at h
      obtain ⟨rfl, rfl⟩ := ih (List.append_cancel_right h)
      exact ⟨rfl, rfl⟩

/-- The first tag of a text, if it has any. -/
theorem untagged_or_exists_tag (t : Text) :
    Untagged t ∨ ∃ u s rest, t = u ++ (s ++ rest) ∧ Untagged u ∧ IsTag s := by
  induction t with
  | nil => exact .inl fun s hs hin => hs.ne_nil (List.infix_nil.mp hin)
  | cons c t ih =>
    cases htag : tag? (c :: t) with
    | some p =>
      obtain ⟨hs, ht⟩ := tag?_eq_some_iff.mp htag
      exact .inr ⟨[], p.1, p.2, ht, fun s hs hin => hs.ne_nil (List.infix_nil.mp hin), hs⟩
    | none =>
      have hnone := tag?_eq_none_iff.mp htag
      rcases ih with huntagged | ⟨u, s, rest, rfl, huntagged, hs⟩
      · refine .inl fun s hs hin => ?_
        rcases List.infix_cons_iff.mp hin with hin | hin
        · exact hnone s hs hin
        · exact huntagged s hs hin
      · refine .inr ⟨c :: u, s, rest, rfl, fun s' hs' hin => ?_, hs⟩
        rcases List.infix_cons_iff.mp hin with hin | hin
        · exact hnone s' hs' (hin.trans (List.prefix_append (c :: u) _))
        · exact huntagged s' hs' hin

/-- Every text falls into pieces. -/
theorem exists_cut (t : Text) : ∃ ps, Cut t ps := by
  induction hn : t.length using Nat.strongRecOn generalizing t with
  | ind n ih =>
    rcases untagged_or_exists_tag t with huntagged | ⟨u, s, rest, rfl, huntagged, hs⟩
    · exact ⟨_, .plain huntagged⟩
    · obtain ⟨v, n, rfl, hv⟩ := exists_backslashes u
      have hpos := List.length_pos_iff.mpr hs.ne_nil
      simp only [List.length_append] at hn
      obtain ⟨ps, hps⟩ := ih rest.length (by omega) rest rfl
      exact ⟨_, .tag (huntagged.of_isInfix (List.prefix_append v _).isInfix) hv hs hps⟩

/-! ### Reading the pieces -/

/-- No tag begins in `u` where `t` follows it. -/
def NoneBegins (u t : Text) : Prop :=
  ∀ v, v ≠ [] → v <:+ u → tag? (v ++ t) = none

theorem Untagged.noneBegins_nil {u : Text} (h : Untagged u) : NoneBegins u [] := by
  intro v _ hv
  rw [List.append_nil]
  exact tag?_eq_none_iff.mpr fun s hs hin => h s hs (hin.isInfix.trans hv.isInfix)

theorem Untagged.noneBegins_tag {u s rest : Text} (h : Untagged u) (hs : IsTag s) (n : Nat) :
    NoneBegins (u ++ List.replicate n '\\') (s ++ rest) := by
  intro v hne hv
  refine tag?_eq_none_iff.mpr fun s' hs' hin => ?_
  obtain ⟨body, rfl, -⟩ := hs.exists_body
  obtain ⟨before, hbefore⟩ := hv
  rcases List.append_eq_append_iff.mp hbefore with ⟨v', rfl, rfl⟩ | ⟨v', rfl, hrep⟩
  · cases v' with
    | nil =>
      -- The tag would begin with one of the backslashes.
      cases n with
      | zero => exact hne rfl
      | succ n =>
        obtain ⟨body', rfl, -⟩ := hs'.exists_body
        obtain ⟨after, hafter⟩ := hin
        exact absurd (List.cons.inj hafter).1 (by decide)
    | cons c v' =>
      rw [List.append_assoc] at hin
      have hin := hs'.isPrefix_of_bracket (List.cons_ne_nil c v') hin
      exact h s' hs' (hin.isInfix.trans (List.suffix_append before _).isInfix)
  · cases v with
    | nil => exact hne rfl
    | cons c v =>
      have hc : c = '\\' :=
        List.eq_of_mem_replicate (hrep ▸ List.mem_append_right _ List.mem_cons_self)
      obtain ⟨body', rfl, -⟩ := hs'.exists_body
      obtain ⟨after, hafter⟩ := hin
      exact absurd ((List.cons.inj hafter).1.trans hc) (by decide)

theorem piecesFrom_of_tag {u s t rest : Text} (n limit : Nat) (h : tag? t = some (s, rest)) :
    piecesFrom u n (limit + 1) t = .plain u :: .tag n s :: piecesFrom [] 0 limit rest := by
  rw [piecesFrom.eq_def]
  dsimp only
  rw [h]

theorem piecesFrom_cons {u t : Text} {c : Char} (n limit : Nat) (h : tag? (c :: t) = none) :
    piecesFrom u n (limit + 1) (c :: t) =
      if c = '\\' then piecesFrom u (n + 1) limit t
      else piecesFrom (u ++ List.replicate n '\\' ++ [c]) 0 limit t := by
  rw [piecesFrom.eq_def]
  dsimp only
  rw [h]

/-- **Text in which no tag begins is collected**, the backslashes at its end apart. -/
theorem piecesFrom_append {u v w t : Text} {m n : Nat} (limit : Nat) (hw : NoneBegins w t)
    (hu : u.getLast? ≠ some '\\') (hv : v.getLast? ≠ some '\\')
    (h : u ++ List.replicate m '\\' ++ w = v ++ List.replicate n '\\') :
    piecesFrom u m (limit + w.length) (w ++ t) = piecesFrom v n limit t := by
  induction w generalizing u m with
  | nil =>
    rw [List.append_nil] at h
    obtain ⟨rfl, rfl⟩ := eq_of_append_replicate hu hv h
    rfl
  | cons c w ih =>
    have htag : tag? (c :: (w ++ t)) = none := hw (c :: w) (List.cons_ne_nil c w) List.suffix_rfl
    have hw : NoneBegins w t := fun x hx hsuffix => hw x hx (hsuffix.trans (List.suffix_cons c w))
    rw [List.length_cons, ← Nat.add_assoc, List.cons_append, piecesFrom_cons m _ htag]
    split
    next hc =>
      refine ih hw hu ?_
      rw [← h, hc, List.replicate_succ', List.append_assoc, List.append_assoc, List.append_assoc]
      rfl
    next hc =>
      refine ih hw ?_ ?_
      · rw [List.getLast?_concat]
        exact fun h => hc (Option.some.inj h)
      · rw [← h, List.replicate_zero, List.append_nil, List.append_assoc _ [c]]
        rfl

/-- **The pieces of a text are those that it falls into.** -/
theorem Cut.piecesFrom_eq {t : Text} {ps : List Piece} (h : Cut t ps) {limit : Nat}
    (hlimit : t.length < limit) : piecesFrom [] 0 limit t = ps := by
  induction h generalizing limit with
  | @plain t huntagged =>
    obtain ⟨v, n, ht, hv⟩ := exists_backslashes t
    obtain ⟨k, rfl⟩ := Nat.exists_eq_add_of_lt hlimit
    have hread := piecesFrom_append (k + 1) huntagged.noneBegins_nil (u := []) (m := 0) nofun hv ht
    rw [List.append_nil, Nat.add_comm] at hread
    rw [Nat.add_assoc, hread, piecesFrom, ht]
    rfl
  | @tag u s t n ps huntagged hu hs _ ih =>
    simp only [List.length_append] at hlimit
    have hpos := List.length_pos_iff.mpr hs.ne_nil
    obtain ⟨k, rfl⟩ : ∃ k, limit = k + 1 + (u ++ List.replicate n '\\').length := by
      refine ⟨limit - (u ++ List.replicate n '\\').length - 1, ?_⟩
      simp only [List.length_append]
      omega
    rw [List.length_append] at hlimit
    rw [piecesFrom_append (u := []) (m := 0) (k + 1) (huntagged.noneBegins_tag hs n) nofun hu rfl,
      piecesFrom_of_tag n k (tag?_eq_some_iff.mpr ⟨hs, rfl⟩), ih (by omega)]

theorem Cut.pieces_eq {t : Text} {ps : List Piece} (h : Cut t ps) : pieces t = ps :=
  h.piecesFrom_eq (Nat.lt_succ_self _)

theorem cut_pieces (t : Text) : Cut t (pieces t) := by
  obtain ⟨ps, h⟩ := exists_cut t
  rwa [h.pieces_eq]

/-! ### Escaped texts -/

/-- A piece of the escaped text. -/
def Piece.marked : Piece → Piece
  | plain t => plain t
  | tag n t => tag (2 * n + 1) t

/-- What a console shows of a piece of an escaped text. -/
def Piece.kept : Piece → Text
  | plain t => shownText t
  | tag n t => List.replicate n '\\' ++ shownText t

/-- **An escaped text falls into the same stretches and the same tags.** -/
theorem Cut.marked {t : Text} {ps : List Piece} (h : Cut t ps) :
    Cut (ps.flatMap Piece.escaped) (ps.map Piece.marked) := by
  induction h with
  | plain huntagged =>
    rw [List.flatMap_singleton]
    exact .plain huntagged
  | @tag u s t n ps huntagged hu hs _ ih =>
    have hcut := Cut.tag (n := 2 * n + 1) huntagged hu hs ih
    rw [List.append_assoc, ← List.append_assoc (List.replicate _ _)] at hcut
    exact hcut

theorem Cut.getLast?_escaped {t : Text} {ps : List Piece} (h : Cut t ps) :
    (ps.flatMap Piece.escaped).getLast? = t.getLast? := by
  induction h with
  | plain => rw [List.flatMap_singleton]; rfl
  | tag _ _ hs _ ih =>
    simp only [List.flatMap_cons, Piece.escaped, List.getLast?_append, ih, hs.getLast?,
      Option.some_or, Option.or_some]

theorem Piece.shown_marked (p : Piece) : p.marked.shown = p.kept := by
  cases p with
  | plain t => rfl
  | tag n t =>
    have hhalf : (2 * n + 1) / 2 = n := by omega
    have hodd : (2 * n + 1) % 2 = 1 := by omega
    rw [marked, shown, hhalf, if_pos hodd, kept]

/-- **What a console shows of an escaped text**: all tags, with all the backslashes before them. -/
theorem shown_escape {t : Text} (hend : t.getLast? ≠ some '\\') :
    shown (escape t) = (pieces t).flatMap Piece.kept := by
  have hcut := cut_pieces t
  have hescape : escape t = (pieces t).flatMap Piece.escaped := by
    refine if_neg fun h => hend ?_
    rw [← hcut.getLast?_escaped]
    exact h.1
  rw [hescape, shown, hcut.marked.pieces_eq, List.flatMap_map]
  exact congrArg (List.flatMap · (pieces t)) (funext Piece.shown_marked)

/-! ### Texts that are shown as they are -/

theorem unescapeBrackets_eq_self {t : Text} (h : ¬['\\', '['] <:+: t) : unescapeBrackets t = t := by
  induction t using unescapeBrackets.induct with
  | case1 rest => exact absurd (List.prefix_append ['\\', '['] rest).isInfix h
  | case2 c rest hne ih =>
    rw [unescapeBrackets.eq_2 c rest hne,
      ih fun hin => h (hin.trans (List.suffix_cons c rest).isInfix)]
  | case3 => rfl

/-- No name of a pictograph stands between colons. -/
def NoCode (t : Text) : Prop :=
  ∀ name, (∀ c ∈ name, c ≠ ':' ∧ Text.isBlank c = false) → ':' :: name ++ [':'] <:+: t →
    emojiText name = ':' :: name ++ [':']

theorem NoCode.of_isInfix {s t : Text} (h : NoCode t) (hs : s <:+: t) : NoCode s :=
  fun name hname hin => h name hname (hin.trans hs)

theorem noCode_of_not_mem {t : Text} (h : ':' ∉ t) : NoCode t :=
  fun _ _ hin => absurd (hin.subset List.mem_cons_self) h

/-- The invariant of the reader of codes: what has been read since a colon is kept. -/
theorem replaceEmojiFrom_eq_self (t : Text) :
    (NoCode t → replaceEmojiFrom none t = t) ∧
      ∀ name, (∀ c ∈ name, c ≠ ':' ∧ Text.isBlank c = false) → NoCode (':' :: name ++ t) →
        replaceEmojiFrom (some name) t = ':' :: name ++ t := by
  induction t with
  | nil => exact ⟨fun _ => rfl, fun name _ _ => (List.append_nil _).symm⟩
  | cons c t ih =>
    obtain ⟨ihnone, ihsome⟩ := ih
    have htail (u : Text) : t <:+: u ++ c :: t :=
      ((List.suffix_cons c t).trans (List.suffix_append u _)).isInfix
    refine ⟨fun h => ?_, fun name hname h => ?_⟩
    · rw [replaceEmojiFrom]
      split
      next hc =>
        rw [hc] at h ⊢
        exact ihsome [] (fun d hd => nomatch hd) h
      next => rw [ihnone (h.of_isInfix (htail []))]
    · rw [replaceEmojiFrom]
      split
      next hc =>
        have hcode : emojiText name = ':' :: name ++ [':'] :=
          h name hname ⟨[], t, by rw [hc, List.nil_append, List.append_assoc]; rfl⟩
        rw [hcode, ihnone (h.of_isInfix (htail _)), hc, List.append_assoc]
        rfl
      next hc =>
        split
        next => rw [ihnone (h.of_isInfix (htail _))]
        next hblank =>
          have hmoved : ':' :: (name ++ [c]) ++ t = ':' :: name ++ c :: t := by simp
          rw [ihsome (name ++ [c]) ?_ (hmoved ▸ h), hmoved]
          intro d hd
          rcases List.mem_append.mp hd with hd | hd
          · exact hname d hd
          · rw [List.mem_singleton.mp hd]
            exact ⟨hc, Bool.eq_false_iff.mpr hblank⟩

theorem replaceEmoji_eq_self {t : Text} (h : NoCode t) : replaceEmoji t = t :=
  (replaceEmojiFrom_eq_self t).1 h

/-- **The texts that a console shows as they are**, once escaped. -/
structure ShownAsIs (t : Text) : Prop where
  /-- No name of a pictograph stands between colons. -/
  noCode : NoCode t
  /-- A bracket after a backslash opens a tag. -/
  tag_of_backslash : ∀ rest, '\\' :: '[' :: rest <:+ t → ∃ s, IsTag s ∧ s <+: '[' :: rest

theorem ShownAsIs.of_isSuffix {s t : Text} (h : ShownAsIs t) (hs : s <:+ t) : ShownAsIs s :=
  ⟨h.noCode.of_isInfix hs.isInfix, fun rest hrest => h.tag_of_backslash rest (hrest.trans hs)⟩

/-- No bracket of a tag is behind a backslash of the tag. -/
theorem IsTag.shownText_eq_self {s : Text} (h : IsTag s) (hcode : NoCode s) : shownText s = s := by
  have hbracket : ¬['\\', '['] <:+: s := by
    obtain ⟨body, rfl, hbody, -⟩ := h.exists_body
    intro hin
    rcases List.infix_cons_iff.mp hin with ⟨rest, hrest⟩ | hin
    · exact absurd (List.cons.inj hrest).1 (by decide)
    · exact hbody (hin.subset (List.mem_cons_of_mem _ List.mem_cons_self))
  rw [shownText, unescapeBrackets_eq_self hbracket, replaceEmoji_eq_self hcode]

/-- A stretch without a tag is shown as it is, whatever follows it: a bracket behind a backslash
would open a tag, and that tag would be in the stretch. -/
theorem Untagged.shownText_eq_self {u t : Text} (h : Untagged u)
    (ht : t = [] ∨ ∃ n w, t = List.replicate n '\\' ++ '[' :: w) (hshown : ShownAsIs (u ++ t)) :
    shownText u = u := by
  have hbracket : ¬['\\', '['] <:+: u := by
    rintro ⟨before, after, rfl⟩
    obtain ⟨s, hs, hin⟩ := hshown.tag_of_backslash (after ++ t)
      ⟨before, by simp only [List.append_assoc, List.cons_append, List.nil_append]⟩
    have hin : s <+: '[' :: after := by
      rcases ht with rfl | ⟨n, w, rfl⟩
      · rwa [List.append_nil] at hin
      · exact hs.isPrefix_of_bracket (List.cons_ne_nil '[' after) hin
    refine h s hs (hin.isInfix.trans ⟨before ++ ['\\'], [], ?_⟩)
    simp only [List.append_assoc, List.cons_append, List.nil_append, List.append_nil]
  rw [shownText, unescapeBrackets_eq_self hbracket,
    replaceEmoji_eq_self (hshown.noCode.of_isInfix (List.prefix_append u t).isInfix)]

theorem Cut.flatMap_kept {t : Text} {ps : List Piece} (h : Cut t ps) (hshown : ShownAsIs t) :
    ps.flatMap Piece.kept = t := by
  induction h with
  | plain huntagged =>
    rw [List.flatMap_singleton]
    exact huntagged.shownText_eq_self (.inl rfl) (by rwa [List.append_nil])
  | @tag u s t n ps huntagged hu hs _ ih =>
    have hs' : s <:+: u ++ List.replicate n '\\' ++ (s ++ t) :=
      ⟨u ++ List.replicate n '\\', t, List.append_assoc _ _ _⟩
    have hsuffix : t <:+ u ++ List.replicate n '\\' ++ (s ++ t) :=
      (List.suffix_append s t).trans (List.suffix_append _ _)
    have hstretch : shownText u = u := by
      obtain ⟨body, rfl, -⟩ := hs.exists_body
      rw [List.append_assoc] at hshown
      exact huntagged.shownText_eq_self (.inr ⟨n, body ++ t, rfl⟩) hshown
    rw [List.flatMap_cons, List.flatMap_cons, ih (hshown.of_isSuffix hsuffix), Piece.kept,
      Piece.kept, hstretch, hs.shownText_eq_self (hshown.noCode.of_isInfix hs')]
    simp only [List.append_assoc]

/-- **A text without codes and stray backslashes is shown as it is**, with the tags in it. -/
theorem ShownAsIs.flatMap_kept {t : Text} (h : ShownAsIs t) :
    (pieces t).flatMap Piece.kept = t :=
  (cut_pieces t).flatMap_kept h

end Console

end Substitution
