import Mathlib.Data.List.Basic
import Substitution.Pattern.Basic
import Substitution.Proofs.Except

/-!
# The groups of a pattern

The number of groups of a pattern (`Substitution.Pattern.groups`) is found while the text is read,
by counting the parentheses that open a group. Here it is compared with the tree that comes out: the
capturing groups of the tree have the numbers from one to `groups`, in the order in which they stand
in the tree (`Substitution.Pattern.groupNumbers_eq`). So the captures of a match, of which there are
`groups`, belong one to one to the groups that the pattern has, and the groups in one part of a tree
come before those in the part behind it.

While the text is read, a group that has been opened is either still open, and then it is named by a
frame on the stack, or it has been closed, and then it stands in one of the branches. That these two
together are all the numbers handed out so far, in order, is what every step of the reader keeps
(`Substitution.PatternReader.Numbered`). Most steps put leaves into a branch or wrap what is there,
which changes nothing; only opening and closing a group do.
-/

namespace Substitution

/-! ### The numbers in a tree -/

namespace Node

/-- The numbers of the capturing groups in a tree. -/
def groupNumbers : Node → List Nat
  | empty => []
  | one _ _ => []
  | anchor _ => []
  | seq a b => a.groupNumbers ++ b.groupNumbers
  | alt a b => a.groupNumbers ++ b.groupNumbers
  | group number body => number.toList ++ body.groupNumbers
  | again _ _ => []
  | given _ yes no => yes.groupNumbers ++ no.groupNumbers
  | loop _ _ _ body => body.groupNumbers
  | atomic body => body.groupNumbers
  | ahead _ body => body.groupNumbers
  | behind _ _ _ body => body.groupNumbers

@[simp] theorem groupNumbers_ofList (nodes : List Node) :
    (ofList nodes).groupNumbers = nodes.flatMap groupNumbers := by
  induction nodes with
  | nil => rfl
  | cons n rest ih =>
    cases rest with
    | nil => simp [ofList]
    | cons m rest =>
      change n.groupNumbers ++ (ofList (m :: rest)).groupNumbers = _
      rw [ih]
      rfl

@[simp] theorem groupNumbers_anyOf (nodes : List Node) :
    (anyOf nodes).groupNumbers = nodes.flatMap groupNumbers := by
  induction nodes with
  | nil => rfl
  | cons n rest ih =>
    cases rest with
    | nil => simp [anyOf]
    | cons m rest =>
      change n.groupNumbers ++ (anyOf (m :: rest)).groupNumbers = _
      rw [ih]
      rfl

/-- A leaf has no groups in it. -/
theorem groupNumbers_of_sameLeaf {m n : Node} (h : m.sameLeaf n = true) :
    m.groupNumbers = [] ∧ n.groupNumbers = [] := by
  rw [sameLeaf.eq_def] at h
  split at h
  · exact ⟨rfl, rfl⟩
  · exact ⟨rfl, rfl⟩
  · exact ⟨rfl, rfl⟩
  · cases h

end Node

namespace Branch

/-- The numbers in the branches of a list. -/
def groupNumbers (branches : List (List Node)) : List Nat :=
  branches.flatMap (List.flatMap Node.groupNumbers)

@[simp] theorem groupNumbers_nil : groupNumbers [] = [] := rfl

@[simp] theorem groupNumbers_cons (branch : List Node) (others : List (List Node)) :
    groupNumbers (branch :: others) =
      branch.flatMap Node.groupNumbers ++ groupNumbers others := rfl

/-- Dropping a leaf that all branches start with drops no group. -/
theorem groupNumbers_map_tail {n : Node} {branches : List (List Node)}
    (h : branches.all (startsWith n) = true) :
    groupNumbers (branches.map List.tail) = groupNumbers branches := by
  induction branches with
  | nil => rfl
  | cons branch rest ih =>
    rw [List.all_cons, Bool.and_eq_true] at h
    rw [List.map_cons, groupNumbers_cons, groupNumbers_cons, ih h.2]
    cases branch with
    | nil => rfl
    | cons m branch =>
      rw [List.tail_cons, List.flatMap_cons, (Node.groupNumbers_of_sameLeaf h.1).2,
        List.nil_append]

theorem groupNumbers_factor (branch : List Node) (others : List (List Node)) :
    (factor branch others).1.flatMap Node.groupNumbers ++ groupNumbers (factor branch others).2 =
      groupNumbers (branch :: others) := by
  induction branch generalizing others with
  | nil => rfl
  | cons n rest ih =>
    rw [factor]
    split
    · next hall =>
      have hrest := ih (others.map List.tail)
      rw [groupNumbers_cons, groupNumbers_map_tail hall] at hrest
      rw [List.flatMap_cons, List.append_assoc, hrest, groupNumbers_cons, List.flatMap_cons,
        List.append_assoc]
    · rfl

/-- A branch that fits in a set has no groups in it. -/
theorem groupNumbers_of_setItems? {branch : List Node} {found : Mode × List SetItem}
    (h : setItems? branch = some found) : branch.flatMap Node.groupNumbers = [] := by
  rw [setItems?.eq_def] at h
  split at h
  · rfl
  · rfl
  · cases h

theorem groupNumbers_of_mapM_setItems? {branches : List (List Node)}
    {found : List (Mode × List SetItem)} (h : branches.mapM setItems? = some found) :
    groupNumbers branches = [] := by
  induction branches generalizing found with
  | nil => rfl
  | cons branch others ih =>
    rw [List.mapM_cons] at h
    obtain ⟨first, hfirst, h⟩ := Option.bind_eq_some_iff.mp h
    obtain ⟨rest, hrest, -⟩ := Option.bind_eq_some_iff.mp h
    rw [groupNumbers_cons, groupNumbers_of_setItems? hfirst, ih hrest, List.append_nil]

theorem groupNumbers_of_asSet? {branches : List (List Node)} {n : Node}
    (h : asSet? branches = some n) : n.groupNumbers = [] ∧ groupNumbers branches = [] := by
  rw [asSet?] at h
  split at h
  · next hfound =>
    cases h
    exact ⟨rfl, groupNumbers_of_mapM_setItems? hfound⟩
  · cases h

/-- **Joining branches keeps their groups**, in order. -/
theorem groupNumbers_join (branches : List (List Node)) :
    (join branches).flatMap Node.groupNumbers = groupNumbers branches := by
  rw [join.eq_def]
  split
  · rfl
  · rw [groupNumbers_cons, groupNumbers_nil, List.append_nil]
  · next branch others _ =>
    have hfactor := groupNumbers_factor branch others
    have hchoice : ((asSet? (factor branch others).2).getD
        (.anyOf ((factor branch others).2.map .ofList))).groupNumbers =
          groupNumbers (factor branch others).2 := by
      cases hset : asSet? (factor branch others).2 with
      | some n =>
        obtain ⟨hn, hbranches⟩ := groupNumbers_of_asSet? hset
        rw [Option.getD_some, hn, hbranches]
      | none =>
        rw [Option.getD_none, Node.groupNumbers_anyOf, List.flatMap_map]
        simp only [Node.groupNumbers_ofList]
        rfl
    simp only [List.flatMap_append, List.flatMap_singleton]
    rw [hchoice, hfactor]

theorem nodes_cons (p : Piece) (pieces : List Piece) :
    nodes (p :: pieces) = nodes pieces ++ p.nodes := by
  rw [nodes, List.reverse_cons, List.flatMap_append, List.flatMap_singleton, nodes]

theorem groupNumbers_append (branches others : List (List Node)) :
    groupNumbers (branches ++ others) = groupNumbers branches ++ groupNumbers others :=
  List.flatMap_append

end Branch

/-! ### The numbers that a reader has handed out -/

/-- The number of the group that an open parenthesis begins, if it begins one. -/
def Opening.groupNumbers : Opening → List Nat
  | capture number => [number]
  | _ => []

namespace Frame

/-- The numbers of the groups that stand in a frame. -/
def insideNumbers (f : Frame) : List Nat :=
  Branch.groupNumbers f.branches.reverse ++ (Branch.nodes f.pieces).flatMap Node.groupNumbers

/-- The number of the group that a frame is, if it is one, and of those that stand in it. -/
def groupNumbers (f : Frame) : List Nat :=
  f.opening.groupNumbers ++ f.insideNumbers

end Frame

namespace PatternReader

/-- The numbers of the groups that are open or closed, the frames taken from the outermost one on.
-/
def groupNumbers (r : PatternReader) : List Nat :=
  r.outer.reverse.flatMap Frame.groupNumbers ++ r.frame.groupNumbers

/-- The frames, the innermost one first. -/
def frames (r : PatternReader) : List Frame :=
  r.frame :: r.outer

/-- **The numbers handed out so far** are those of the open groups and of the closed ones, in order,
and the outermost frame is that of the pattern itself. -/
structure Numbered (r : PatternReader) : Prop where
  groupNumbers_eq : r.groupNumbers = List.range' 1 r.widths.length
  outermost : (r.frames.map Frame.opening).getLast? = some .plain

variable {r : PatternReader}

theorem groupNumbers_push (r : PatternReader) (p : Piece) :
    (r.push p).groupNumbers = r.groupNumbers ++ p.nodes.flatMap Node.groupNumbers := by
  simp only [groupNumbers, PatternReader.push, Frame.groupNumbers, Frame.insideNumbers,
    Branch.nodes_cons, List.flatMap_append, List.append_assoc]

theorem Numbered.push (h : r.Numbered) {p : Piece}
    (hp : p.nodes.flatMap Node.groupNumbers = []) : (r.push p).Numbered := by
  refine ⟨?_, h.outermost⟩
  rw [groupNumbers_push, hp, List.append_nil]
  exact h.groupNumbers_eq

theorem Numbered.pushTest (h : r.Numbered) (t : Test) : (r.pushTest t).Numbered :=
  h.push rfl

theorem groupNumbers_openFrame (r : PatternReader) (opening : Opening) (start : Nat)
    (flags : Flags) :
    (r.openFrame opening start flags).groupNumbers = r.groupNumbers ++ opening.groupNumbers := by
  simp only [groupNumbers, PatternReader.openFrame, Frame.groupNumbers, Frame.insideNumbers,
    List.reverse_cons, List.flatMap_append, List.flatMap_singleton, List.append_assoc]
  exact congrArg _ (congrArg _ (congrArg _ (congrArg _ (List.append_nil _))))

theorem Numbered.openFrame (h : r.Numbered) {opening : Opening}
    (hopening : opening.groupNumbers = []) (start : Nat) (flags : Flags) :
    (r.openFrame opening start flags).Numbered := by
  refine ⟨?_, h.outermost⟩
  rw [groupNumbers_openFrame, hopening, List.append_nil]
  exact h.groupNumbers_eq

/-- **Opening a group hands out the next number.** -/
theorem Numbered.openCapture (h : r.Numbered) (start : Nat) : (r.openCapture start).Numbered := by
  have hnext : (r.openCapture start).widths.length = r.widths.length + 1 := List.length_append
  refine ⟨?_, h.outermost⟩
  rw [hnext, List.range'_1_concat, Nat.add_comm 1, ← h.groupNumbers_eq]
  refine (groupNumbers_openFrame _ _ _ _).trans ?_
  rw [Opening.groupNumbers, List.length_append, List.length_singleton]
  rfl

theorem Numbered.nextBranch (h : r.Numbered) : r.nextBranch.Numbered := by
  refine ⟨Eq.trans ?_ h.groupNumbers_eq, h.outermost⟩
  simp only [groupNumbers, PatternReader.nextBranch, Frame.groupNumbers, Frame.insideNumbers,
    List.reverse_cons, Branch.groupNumbers_append, Branch.groupNumbers_cons,
    Branch.groupNumbers_nil, List.append_assoc, List.append_nil]
  exact congrArg _ (congrArg _ (congrArg _ (List.append_nil _)))

/-- All branches of a frame have the groups that stand in it. -/
theorem groupNumbers_allBranches (r : PatternReader) :
    Branch.groupNumbers r.allBranches = r.frame.insideNumbers := by
  rw [PatternReader.allBranches, List.reverse_cons, Branch.groupNumbers_append,
    Branch.groupNumbers_cons, Branch.groupNumbers_nil, List.append_nil, Frame.insideNumbers]

/-- A frame that is closed goes into the frame around it as a piece with the same groups. -/
theorem Numbered.pushClosed {next : PatternReader} {p : Piece} {outer : Frame} {rest : List Frame}
    (h : r.Numbered) (houter : r.outer = outer :: rest) (hframe : next.frame = outer)
    (hrest : next.outer = rest) (hwidths : next.widths.length = r.widths.length)
    (hp : p.nodes.flatMap Node.groupNumbers = r.frame.groupNumbers) : (next.push p).Numbered := by
  obtain ⟨hnumbers, houtermost⟩ := h
  have hnext : r.groupNumbers = next.groupNumbers ++ r.frame.groupNumbers := by
    rw [groupNumbers, groupNumbers, houter, hframe, hrest, List.reverse_cons, List.flatMap_append,
      List.flatMap_singleton]
  constructor
  · rw [groupNumbers_push, hp, ← hnext, hnumbers, ← hwidths]
    rfl
  · rw [frames, houter, ← hframe, ← hrest] at houtermost
    exact List.getLast?_cons_cons.symm.trans houtermost

/-- **Closing a group keeps the numbers**: what was an open group is a group of the tree. -/
theorem Numbered.close (h : r.Numbered) {outer : Frame} {rest : List Frame}
    (houter : r.outer = outer :: rest) : (r.close outer rest).Numbered := by
  have hbranches := groupNumbers_allBranches r
  have hbody : (Node.ofList (Branch.join r.allBranches)).groupNumbers =
      r.frame.insideNumbers := by
    rw [Node.groupNumbers_ofList, Branch.groupNumbers_join, hbranches]
  -- A single node around the body has the groups of the body.
  have hsingle : ∀ {n : Node}, n.groupNumbers =
      r.frame.opening.groupNumbers ++ (Node.ofList (Branch.join r.allBranches)).groupNumbers →
      (Piece.single n).nodes.flatMap Node.groupNumbers = r.frame.groupNumbers := by
    intro n hn
    rw [Piece.single, List.flatMap_singleton, hn, hbody, Frame.groupNumbers]
  rw [PatternReader.close.eq_def]
  dsimp only
  split
  · next g hopening =>
    refine h.pushClosed houter rfl rfl List.length_set (hsingle ?_)
    rw [hopening]
    rfl
  · next hopening =>
    refine h.pushClosed houter rfl rfl rfl ?_
    rw [Branch.groupNumbers_join, hbranches, Frame.groupNumbers, hopening]
    rfl
  · next hopening =>
    exact h.pushClosed houter rfl rfl rfl (hsingle (by rw [hopening]; rfl))
  · next hopening =>
    exact h.pushClosed houter rfl rfl rfl (hsingle (by rw [hopening]; rfl))
  · next hopening =>
    exact h.pushClosed houter rfl rfl rfl (hsingle (by rw [hopening]; rfl))
  · next hopening =>
    exact h.pushClosed houter rfl rfl rfl (hsingle (by rw [hopening]; rfl))
  · next hopening =>
    split
    · next yes no hyesno =>
      refine h.pushClosed houter rfl rfl rfl ?_
      rw [hyesno, Branch.groupNumbers_cons, Branch.groupNumbers_cons, Branch.groupNumbers_nil,
        List.append_nil] at hbranches
      rw [Frame.groupNumbers, hopening, ← hbranches, Piece.single, List.flatMap_singleton,
        Node.groupNumbers, Node.groupNumbers_ofList, Node.groupNumbers_ofList]
      rfl
    · refine h.pushClosed houter rfl rfl rfl (hsingle ?_)
      rw [hopening]
      exact List.append_nil _

/-! ### Steps of the reader -/

open Except (Ensures)

theorem Numbered.quantify (h : r.Numbered) (start least : Nat) (most : Option Nat) :
    Ensures Numbered (r.quantify start least most) := by
  rw [PatternReader.quantify.eq_def]
  split
  · exact .error _
  next p pieces hpieces =>
  split
  · exact .error _
  split
  · exact .error _
  -- Whatever the quantifier is, the last piece goes into the body of a loop.
  have hloop : ∀ greed cursor, Ensures Numbered (.ok { r with
      cursor
      frame := { r.frame with
        pieces := .single (.loop least most greed (.ofList p.nodes)) :: pieces } } :
      Except PatternError PatternReader) := by
    intro greed cursor
    refine .ok ⟨?_, h.outermost⟩
    rw [← h.groupNumbers_eq]
    simp only [groupNumbers, Frame.groupNumbers, Frame.insideNumbers, hpieces, Branch.nodes_cons,
      Piece.single, List.flatMap_append, List.flatMap_singleton, Node.groupNumbers,
      Node.groupNumbers_ofList]
  refine .bind_any fun lazily => ?_
  dsimp only
  split
  · exact .bind_any fun _ => hloop _ _
  · refine .bind_any fun possessive => ?_
    split
    · exact .bind_any fun _ => hloop _ _
    · exact .bind_any fun _ => hloop _ _

/-- Where the reader stands and what it remembers of names, flags and conditions does not matter. -/
theorem Numbered.elsewhere (h : r.Numbered) (cursor : Cursor) (flags : Flags)
    (names : List (Text × Nat)) (behind : Option Nat) (conditions : List (Nat × Nat)) :
    Numbered ⟨cursor, flags, names, r.widths, behind, conditions, r.frame, r.outer⟩ :=
  ⟨h.groupNumbers_eq, h.outermost⟩

theorem Numbered.readBraces (h : r.Numbered) : Ensures Numbered r.readBraces := by
  have hitself : (r.pushTest (.code '\x7b'.toNat false)).Numbered := h.pushTest _
  have hcount : ∀ c start least most,
      Ensures Numbered ({ r with cursor := c }.quantify start least most) :=
    fun c => (h.elsewhere c ..).quantify
  rw [PatternReader.readBraces]
  dsimp only
  repeat' first
    | exact .ok hitself
    | exact .error _
    | exact hcount _ _ _ _
    | refine .bind_any fun _ => ?_
    | split

theorem Numbered.readEscape (h : r.Numbered) (e : Char) : Ensures Numbered (r.readEscape e) := by
  rw [PatternReader.readEscape]
  refine .bind_any fun (meaning, c) => ?_
  have hc : Numbered { r with cursor := c } := h.elsewhere ..
  dsimp only
  split
  · exact .ok (hc.pushTest _)
  · exact .ok (hc.pushTest _)
  · exact .ok (hc.push rfl)
  · exact .ok (hc.push rfl)
  · exact .ok (hc.push rfl)
  · split
    · split
      · exact .error _
      · exact .bind_any fun _ => .ok (hc.push rfl)
    · exact .error _

theorem Numbered.readNamed (h : r.Numbered) (start : Nat) :
    Ensures Numbered (r.readNamed start) := by
  rw [PatternReader.readNamed]
  refine .bind_any fun definition => .bind_any fun reference => ?_
  split
  · refine .bind_any fun (name, c) => ?_
    dsimp only
    split
    · exact .error _
    · exact .ok (Numbered.openCapture (h.elsewhere ..) start)
  · refine .bind_any fun (name, c) => ?_
    have hc : Numbered { r with cursor := c } := h.elsewhere ..
    dsimp only
    split
    · exact .error _
    · split
      · exact .error _
      · exact .bind_any fun _ => .ok (hc.push rfl)
  · split
    · exact .error _
    · exact .bind_any fun _ => .error _

theorem Numbered.readBehind (h : r.Numbered) (start : Nat) :
    Ensures Numbered (r.readBehind start) := by
  rw [PatternReader.readBehind]
  split
  · exact .error _
  · refine .bind_any fun c => ?_
    dsimp only
    split
    · exact .ok (Numbered.openFrame (h.elsewhere ..) rfl _ _)
    · exact .error _

theorem Numbered.readGiven (h : r.Numbered) (start : Nat) :
    Ensures Numbered (r.readGiven start) := by
  rw [PatternReader.readGiven]
  refine .bind_any fun (name, c) => ?_
  -- The number of the group is found in one way or another, and then the frame is opened.
  have hopen : ∀ (g : Nat) (next : PatternReader), next.Numbered →
      Ensures Numbered (do
        next.checkBehind g
        .ok (next.openFrame (.given g) start next.frame.flags)) :=
    fun g next hnext => .bind_any fun _ => .ok (hnext.openFrame rfl _ _)
  dsimp only
  split
  · split
    · exact .error _
    · exact hopen _ _ (h.elsewhere ..)
  · split
    · exact .error _
    · exact .error _
    · split
      · exact .error _
      split
      · exact .error _
      split
      · exact hopen _ _ (h.elsewhere ..)
      · exact hopen _ _ (h.elsewhere ..)

theorem Numbered.readFlags (h : r.Numbered) (start : Nat) (t : PatternToken) :
    Ensures Numbered (r.readFlags start t) := by
  rw [PatternReader.readFlags]
  refine .bind_any fun (inlineFlags, c) => ?_
  have hc : Numbered { r with cursor := c } := h.elsewhere ..
  dsimp only
  split
  · exact .ok (hc.openFrame rfl _ _)
  · split
    · exact .ok ⟨h.groupNumbers_eq, h.outermost⟩
    · exact .error _

theorem Numbered.readGroup (h : r.Numbered) (start : Nat) :
    Ensures Numbered (r.readGroup start) := by
  rw [PatternReader.readGroup]
  refine .bind_any fun question => ?_
  split
  · exact .ok (h.openCapture start)
  · split
    · exact .error _
    · refine .bind_any fun c => ?_
      have hc : Numbered { r with cursor := c } := h.elsewhere ..
      dsimp only
      split
      · exact hc.readNamed start
      · exact .ok (hc.openFrame rfl _ _)
      · exact .bind_any fun _ => .ok (h.elsewhere ..)
      · exact .ok (hc.openFrame rfl _ _)
      · exact .ok (hc.openFrame rfl _ _)
      · exact hc.readBehind start
      · exact hc.readGiven start
      · exact .ok (hc.openFrame rfl _ _)
      · split
        · exact hc.readFlags start _
        · exact .error _

theorem Numbered.readPlain (h : r.Numbered) (d : Char) : Ensures Numbered (r.readPlain d) := by
  rw [PatternReader.readPlain.eq_def]
  dsimp only
  split
  · exact .ok h
  split
  · exact .bind_any fun _ => .ok (h.elsewhere ..)
  split
  · exact .bind_any fun _ => .ok (Numbered.pushTest (h.elsewhere ..) _)
  · exact h.quantify _ _ _
  · exact h.quantify _ _ _
  · exact h.quantify _ _ _
  · exact h.readBraces
  · exact .ok (h.pushTest _)
  · exact h.readGroup _
  · exact .ok (h.push rfl)
  · exact .ok (h.push rfl)
  · exact .ok (h.pushTest _)

/-! ### The whole pattern -/

/-- **At the end all groups are closed**, and the numbers handed out are those in the tree. -/
theorem Numbered.finish (h : r.Numbered) :
    Ensures (fun tree : PatternTree =>
      tree.root.groupNumbers = List.range' 1 tree.widths.length) r.finish := by
  rw [PatternReader.finish]
  split
  · next hempty =>
    refine .bind_any fun _ => ?_
    split
    · exact .error _
    · refine .ok ?_
      obtain ⟨hnumbers, houtermost⟩ := h
      have houter : r.outer = [] := List.isEmpty_iff.mp hempty
      have hplain : r.frame.opening = .plain := by
        rw [frames, houter] at houtermost
        exact Option.some.inj houtermost
      rw [groupNumbers, houter, Frame.groupNumbers, hplain] at hnumbers
      rw [Node.groupNumbers_ofList, Branch.groupNumbers_join, List.length_map,
        groupNumbers_allBranches]
      exact hnumbers
  · exact .error _

theorem Numbered.step (h : r.Numbered) (t : PatternToken) : Ensures Numbered (r.step t) := by
  have helsewhere (c : Cursor) : Numbered { r with cursor := c } := h.elsewhere ..
  rw [PatternReader.step.eq_def]
  split
  · split
    · exact .error _
    · exact .bind_any fun c => .ok (helsewhere c).nextBranch
  · split
    · exact .bind_any fun _ => .error _
    · next outer rest houter => exact .bind_any fun c => .ok ((helsewhere c).close houter)
  · exact .bind_any fun c => (helsewhere c).readPlain _
  · exact .bind_any fun c => (helsewhere c).readEscape _
  · exact .bind_any fun c => .ok (helsewhere c)

theorem Numbered.run (h : r.Numbered) (limit : Nat) :
    Ensures (fun tree : PatternTree =>
      tree.root.groupNumbers = List.range' 1 tree.widths.length) (run limit r) := by
  induction limit generalizing r with
  | zero => exact h.finish
  | succ limit ih =>
    rw [PatternReader.run]
    split
    · exact h.finish
    · exact .bind (h.step _) fun next hnext => ih hnext

end PatternReader

/-- **The groups of a pattern** have the numbers from one to `groups`, in the order in which they
stand in its tree. -/
theorem Pattern.groupNumbers_eq {text : Text} {flags : Flags} {p : Pattern}
    (h : Pattern.compile text flags = .ok p) :
    p.root.groupNumbers = List.range' 1 p.groups := by
  obtain ⟨tree, htree, h⟩ := Except.bind_eq_ok_iff.mp h
  obtain ⟨cursor, -, htree⟩ := Except.bind_eq_ok_iff.mp htree
  have hstart : (PatternReader.start cursor flags).Numbered := ⟨rfl, rfl⟩
  have hnumbers := hstart.run _ tree htree
  split at h
  · cases h
  · cases h
    exact hnumbers

end Substitution
