import Substitution.Pattern.Basic
import Substitution.Proofs.Except

/-!
# Patterns without special characters

A text in which no character is special is a pattern that matches this very text and nothing else.
Read without flags, it is a row of tests for its characters
(`Substitution.Pattern.compile_plain`), so a match of it begins wherever the text stands, and a
search finds the first place from where it begins on (`Substitution.Pattern.search_plain`). What a
search finds is thereby a matter of texts alone: `Substitution.Text.cut?` cuts a text at the first
occurrence of another one.
-/

namespace Substitution

/-! ### The first occurrence of a text -/

namespace Text

/-- What stands before and behind the first occurrence of `s` in a text. -/
def cut? (s : Text) : Text → Option (Text × Text)
  | [] => if s = [] then some ([], []) else none
  | c :: rest =>
    if s <+: c :: rest then some ([], (c :: rest).drop s.length)
    else (cut? s rest).map fun (before, after) => (c :: before, after)

theorem cut?_eq_of_prefix {s t : Text} (h : s <+: t) : cut? s t = some ([], t.drop s.length) := by
  cases t with
  | nil =>
    obtain rfl := List.prefix_nil.mp h
    rfl
  | cons c rest => rw [cut?, if_pos h]

/-- A text is where it is found. -/
theorem eq_of_cut? {s t before after : Text} (h : cut? s t = some (before, after)) :
    t = before ++ s ++ after := by
  induction t generalizing before with
  | nil =>
    rw [cut?] at h
    split at h
    · next hs =>
      cases h
      exact (List.append_nil s).symm ▸ hs.symm
    · cases h
  | cons c rest ih =>
    rw [cut?] at h
    split at h
    · next hprefix =>
      cases h
      exact (List.prefix_iff_eq_append.mp hprefix).symm
    · obtain ⟨⟨before', after'⟩, hcut, heq⟩ := Option.map_eq_some_iff.mp h
      obtain ⟨rfl, rfl⟩ := Prod.mk.inj heq
      rw [ih hcut]
      rfl

end Text

/-! ### Reading a row of characters -/

/-- The characters that may mean something else than themselves in a pattern. -/
def Pattern.specials : List Char :=
  ['\\', '.', '^', '$', '*', '+', '?', '{', '}', '[', ']', '|', '(', ')']

/-- A text in which no character is special. -/
def Text.Plain (s : Text) : Prop :=
  ∀ c ∈ s, c ∉ Pattern.specials

instance (s : Text) : Decidable s.Plain :=
  s.decidableBAll _

theorem Text.Plain.of_cons {c : Char} {s : Text} (h : Text.Plain (c :: s)) :
    c ∉ Pattern.specials ∧ s.Plain :=
  List.forall_mem_cons.mp h

/-- The test for one character as it stands. -/
def Node.literal (c : Char) : Node :=
  .one (.code c.toNat false) ⟨false, true⟩

namespace PatternToken

theorem ofText_plain {s : Text} (h : s.Plain) : ofText s = s.map .plain := by
  induction s with
  | nil => rfl
  | cons c rest ih =>
    obtain ⟨hc, hrest⟩ := h.of_cons
    have hne : c ≠ '\\' := fun heq => hc (heq ▸ List.mem_cons_self)
    unfold ofText
    split
    · next heq => cases heq
    · next heq => exact absurd (List.cons.inj heq).1 hne
    · next heq => exact absurd (List.cons.inj heq).1 hne
    · next heq =>
      obtain ⟨rfl, rfl⟩ := List.cons.inj heq
      rw [ih hrest, List.map_cons]

end PatternToken

namespace Cursor

/-- Before a row of characters there is no dangling backslash. -/
theorem settle_plain {c : Cursor} {s : Text} (h : c.rest = s.map .plain) : c.settle = .ok c := by
  rw [settle, h]
  cases s <;> rfl

theorem advance_plain {c : Cursor} {d : Char} {s : Text}
    (h : c.rest = (d :: s).map .plain) :
    c.advance = .ok ⟨c.pattern, c.position + 1, s.map .plain⟩ := by
  rw [advance, h, List.map_cons]
  exact settle_plain rfl

end Cursor

namespace PatternReader

/-- A character that is not special stands for itself, unless blanks are skipped. -/
theorem readPlain_plain {r : PatternReader} {c : Char} (hc : c ∉ Pattern.specials)
    (hflags : r.frame.flags = 0) : r.readPlain c = .ok (r.push (.single (.literal c))) := by
  have hmode : r.mode = ⟨false, true⟩ := by rw [mode, hflags]; rfl
  have hverbose : r.frame.flags.has Flags.verbose = false := by rw [hflags]; rfl
  unfold readPlain
  rw [if_neg (by simp [hverbose]), if_neg (by simp [hverbose])]
  split
  case h_10 => rw [pushTest, hmode, Node.literal]
  -- All other characters of the cases are special.
  all_goals exact absurd (by decide) hc

/-- A step over a character that is not special. -/
theorem step_plain {r : PatternReader} {c : Char} {rest : Text} (hc : c ∉ Pattern.specials)
    (hrest : r.cursor.rest = (c :: rest).map .plain) (hflags : r.frame.flags = 0) :
    r.step (.plain c) =
      .ok ({ r with cursor := ⟨r.cursor.pattern, r.cursor.position + 1, rest.map .plain⟩ }.push
        (.single (.literal c))) := by
  have hbar : c ≠ '|' := fun heq => hc (heq ▸ by decide)
  have hparen : c ≠ ')' := fun heq => hc (heq ▸ by decide)
  rw [step.eq_def]
  split
  · next heq => exact absurd (PatternToken.plain.inj heq) hbar
  · next heq => exact absurd (PatternToken.plain.inj heq) hparen
  · next heq =>
    obtain rfl := PatternToken.plain.inj heq
    rw [Cursor.advance_plain hrest]
    exact readPlain_plain hc hflags (r := { r with
      cursor := ⟨r.cursor.pattern, r.cursor.position + 1, rest.map .plain⟩ })
  · next heq => cases heq
  · next heq => cases heq

theorem run_succ_plain {r : PatternReader} {c : Char} {rest : Text} (limit : Nat)
    (hc : c ∉ Pattern.specials) (hrest : r.cursor.rest = (c :: rest).map .plain)
    (hflags : r.frame.flags = 0) :
    run (limit + 1) r =
      run limit
        ({ r with cursor := ⟨r.cursor.pattern, r.cursor.position + 1, rest.map .plain⟩ }.push
          (.single (.literal c))) := by
  have hnext : r.cursor.next = some (.plain c) := by rw [Cursor.next, hrest]; rfl
  rw [run, hnext]
  dsimp only
  rw [step_plain hc hrest hflags]
  rfl

/-- **A row of characters is read one by one.** -/
theorem run_plain {s : Text} (h : s.Plain) {r : PatternReader} {limit : Nat}
    (hrest : r.cursor.rest = s.map .plain) (hflags : r.frame.flags = 0)
    (hlimit : s.length < limit) :
    ∃ cursor, run limit r = finish { r with
      cursor
      frame := { r.frame with
        pieces := (s.map fun c => Piece.single (.literal c)).reverse ++ r.frame.pieces } } := by
  induction s generalizing r limit with
  | nil =>
    obtain ⟨limit, rfl⟩ := Nat.exists_eq_add_of_lt hlimit
    have hnext : r.cursor.next = none := by rw [Cursor.next, hrest]; rfl
    refine ⟨r.cursor, ?_⟩
    rw [run, hnext]
    rfl
  | cons c rest ih =>
    obtain ⟨hc, hplain⟩ := h.of_cons
    obtain ⟨limit, rfl⟩ := Nat.exists_eq_succ_of_ne_zero (Nat.ne_of_gt (Nat.zero_lt_of_lt hlimit))
    obtain ⟨cursor, hrun⟩ := ih hplain
      (r := { r with cursor := ⟨r.cursor.pattern, r.cursor.position + 1, rest.map .plain⟩ }.push
        (.single (.literal c))) rfl hflags (Nat.lt_of_succ_lt_succ hlimit)
    refine ⟨cursor, ?_⟩
    rw [Nat.succ_eq_add_one, run_succ_plain limit hc hrest hflags, hrun, List.map_cons,
      List.reverse_cons, List.append_assoc]
    rfl

/-- At the end of a pattern without groups and flags nothing is left to check. -/
theorem finish_eq {r : PatternReader} (hflags : r.flags = 0) (houter : r.outer = [])
    (hconditions : r.conditions = []) :
    r.finish = .ok ⟨.ofList (Branch.join r.allBranches), r.widths.map (·.getD (0, 0)), 0⟩ := by
  have hcheck : r.checkFlags = .ok () := by rw [checkFlags, hflags]; rfl
  rw [finish, houter, hcheck, hconditions, hflags]
  rfl

end PatternReader

namespace Node

/-- A row of tests has no defect. -/
theorem defect?_row (s : Text) (rigid : Bool) :
    (ofList (s.map literal)).defect? rigid = none := by
  induction s with
  | nil => rfl
  | cons c rest ih =>
    cases rest with
    | nil => rfl
    | cons d rest => exact ih

/-- No set leads a row of tests. -/
theorem leadingSet?_row (s : Text) : (ofList (s.map literal)).leadingSet? = none := by
  cases s with
  | nil => rfl
  | cons c rest => cases rest <;> rfl

end Node

namespace Pattern

/-- The pattern that matches a text as it stands. -/
def plain (s : Text) : Pattern :=
  ⟨s, 0, .ofList (s.map .literal), true⟩

/-- The nodes of a row of pieces are the row. -/
theorem nodes_row (s : Text) :
    Branch.nodes (s.map fun c => Piece.single (.literal c)).reverse = s.map .literal := by
  rw [Branch.nodes, List.reverse_reverse]
  induction s with
  | nil => rfl
  | cons c rest ih => rw [List.map_cons, List.flatMap_cons, ih]; rfl

/-- **A text without special characters is the pattern that matches it as it stands.** -/
theorem compile_plain {s : Text} (h : s.Plain) : compile s 0 = .ok (plain s) := by
  have hstart : Cursor.start s = .ok ⟨s, 0, s.map .plain⟩ := by
    rw [Cursor.start, PatternToken.ofText_plain h]
    exact Cursor.settle_plain rfl
  have hread : PatternTree.read s 0 = .ok ⟨.ofList (s.map .literal), [], 0⟩ := by
    have hlimit : s.length < (s.map PatternToken.plain).length + 1 := by
      rw [List.length_map]
      exact Nat.lt_succ_self _
    obtain ⟨cursor, hrun⟩ := PatternReader.run_plain h rfl rfl hlimit
      (r := ⟨⟨s, 0, s.map .plain⟩, 0, [], [], none, [], ⟨.plain, 0, [], [], 0⟩, []⟩)
    rw [PatternTree.read, hstart]
    refine hrun.trans ((PatternReader.finish_eq rfl rfl rfl).trans ?_)
    rw [List.append_nil, PatternReader.allBranches, nodes_row]
    rfl
  refine Except.bind_eq_ok_iff.mpr ⟨_, hread, ?_⟩
  dsimp only
  rw [Node.defect?_row]
  rfl

end Pattern

/-! ### Matching a row of characters -/

namespace Node

/-- A row begins with its first test. -/
theorem run_ofList_cons (a : Array Char) (whole : Bool) (n : Node) (rest : List Node)
    (st : MatchState) (k : Continuation) :
    (ofList (n :: rest)).run a whole st k =
      n.run a whole st fun st => (ofList rest).run a whole st k := by
  cases rest <;> rfl

theorem run_literal (a : Array Char) (whole : Bool) (c : Char) (st : MatchState)
    (k : Continuation) :
    (literal c).run a whole st k =
      if (a.toList.drop st.position).head? = some c then k { st with position := st.position + 1 }
      else .failed st.marks := by
  have haccepts (d : Char) : (Test.code c.toNat false).accepts ⟨false, true⟩ d = true ↔ d = c := by
    change ((d.toNat == c.toNat) != false) = true ↔ d = c
    rw [Bool.bne_false, beq_iff_eq, Char.toNat_inj]
  rw [literal, run, List.head?_drop, Array.getElem?_toList]
  cases a[st.position]? with
  | none => rfl
  | some d => simp only [Option.any_some, haccepts, Option.some.injEq]

/-- **A row of tests matches its text as it stands.** -/
theorem run_row (a : Array Char) (whole : Bool) (s : Text) (st : MatchState) (k : Continuation) :
    (ofList (s.map literal)).run a whole st k =
      if s <+: a.toList.drop st.position then k { st with position := st.position + s.length }
      else .failed st.marks := by
  induction s generalizing st with
  | nil => rw [if_pos List.nil_prefix]; rfl
  | cons c rest ih =>
    rw [List.map_cons, run_ofList_cons, run_literal]
    -- The rest of the row is matched against what stands behind the first character.
    have htail : (a.toList.drop st.position).tail = a.toList.drop (st.position + 1) :=
      List.tail_drop
    cases hleft : a.toList.drop st.position with
    | nil => rw [if_neg nofun, if_neg (by simp)]
    | cons d left =>
      rw [hleft, List.tail_cons] at htail
      by_cases hd : d = c
      · subst hd
        rw [List.head?_cons, if_pos rfl, ih, ← htail, List.length_cons]
        simp only [List.cons_prefix_cons, true_and, Nat.add_assoc, Nat.add_comm 1]
      · rw [List.head?_cons, if_neg fun heq => hd (Option.some.inj heq),
          if_neg fun hprefix => hd (List.cons_prefix_cons.mp hprefix).1.symm]

end Node

namespace Pattern

variable {a : Array Char} {s : Text} {position : Nat}

/-- A match begins where the text stands. -/
theorem matchAt_plain :
    (plain s).matchAt a false position =
      if s <+: a.toList.drop position then some (.ok ⟨position, position + s.length, []⟩)
      else none := by
  have hstart : (plain s).mayStart a position = true := by
    rw [mayStart, plain, Node.leadingSet?_row]
  rw [matchAt, if_pos hstart, plain, Node.run_row]
  by_cases h : s <+: a.toList.drop position
  · rw [if_pos h, if_pos h]
    rfl
  · rw [if_neg h, if_neg h]

/-- The empty text matches at no place where a match must not be empty. -/
theorem matchAt_plain_nil : (plain []).matchAt a true position = none := by
  have hstart : (plain []).mayStart a position = true := rfl
  have hempty : (true && position == position) = true := by rw [beq_self_eq_true]; rfl
  rw [matchAt, if_pos hstart, plain, List.map_nil, Node.ofList, Node.run, if_pos hempty]

/-- **A search finds the first occurrence** from where it begins on. -/
theorem search_plain {more : Nat} (h : position + more = a.size) :
    (plain s).search a more false position =
      (Text.cut? s (a.toList.drop position)).map fun cut =>
        .ok ⟨position + cut.1.length, position + cut.1.length + s.length, []⟩ := by
  induction more generalizing position with
  | zero =>
    have hnil : a.toList.drop position = [] :=
      List.drop_eq_nil_of_le (by rw [Array.length_toList]; omega)
    rw [search, matchAt_plain, hnil]
    cases s with
    | nil => rfl
    | cons c rest => rfl
  | succ more ih =>
    have hposition : position < a.toList.length := by rw [Array.length_toList]; omega
    rw [search, matchAt_plain, ih (by omega), List.drop_eq_getElem_cons hposition, Text.cut?]
    split
    · rfl
    · rw [Option.none_or, Option.map_map]
      refine congrArg (Option.map · _) (funext fun cut => ?_)
      simp only [Function.comp, List.length_cons, Except.ok.injEq, Match.mk.injEq, and_true]
      omega

end Pattern

end Substitution
