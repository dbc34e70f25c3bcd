import Substitution.Proofs.Pattern.Careful
import Substitution.Proofs.Pattern.Groups

/-!
# When a search breaks off

A search breaks off at a match in which a group ends before it begins
(`Substitution.SearchFault.wrongSpan`). Only a possessive repetition can bring this about, and only
one that holds a group and is not itself in the body of a greedy or lazy repetition
(`Substitution.Node.Steady`): a pattern without one never makes a search break off,
`Substitution.Pattern.fault_scan_eq_none`.
-/

namespace Substitution

/-! ### Trees -/

namespace Node

/-- **No possessive repetition, outside of the bodies of greedy and lazy ones, holds a group.** -/
def Steady : Node → Prop
  | empty => True
  | one _ _ => True
  | anchor _ => True
  | seq a b => a.Steady ∧ b.Steady
  | alt a b => a.Steady ∧ b.Steady
  | group _ body => body.Steady
  | again _ _ => True
  | given _ yes no => yes.Steady ∧ no.Steady
  | loop _ _ greed body => greed = .possessive → body.groupNumbers = []
  | atomic body => body.Steady
  | ahead _ body => body.Steady
  | behind _ _ _ body => body.Steady

/-- A tree without groups is steady. -/
theorem steady_of_groupNumbers_eq_nil {n : Node} (h : n.groupNumbers = []) : n.Steady := by
  induction n with
  | empty => trivial
  | one test mode => trivial
  | anchor a => trivial
  | seq a b iha ihb =>
    obtain ⟨ha, hb⟩ := List.append_eq_nil_iff.mp h
    exact ⟨iha ha, ihb hb⟩
  | alt a b iha ihb =>
    obtain ⟨ha, hb⟩ := List.append_eq_nil_iff.mp h
    exact ⟨iha ha, ihb hb⟩
  | group number body ih => exact ih (List.append_eq_nil_iff.mp h).2
  | again number mode => trivial
  | given number yes no ihyes ihno =>
    obtain ⟨hyes, hno⟩ := List.append_eq_nil_iff.mp h
    exact ⟨ihyes hyes, ihno hno⟩
  | loop least most greed body ih => exact fun _ => h
  | atomic body ih => exact ih h
  | ahead negated body ih => exact ih h
  | behind negated least most body ih => exact ih h

variable {s : Array Char}

/-- **Every tree is matched carefully**, in a repetition or if it is steady. -/
theorem careful_run (n : Node) (whole : Bool) (hsteady : whole = false → n.Steady) {lo count : Nat}
    (h : n.groupNumbers = List.range' (lo + 1) count) :
    Matcher.Careful whole lo (lo + count) (n.run s whole) := by
  -- Two parts share the groups: those of the first come before those of the second.
  have hshare {xs ys : List Nat} {lo count : Nat}
      (h : xs ++ ys = List.range' (lo + 1) count) : ∃ first ≤ count,
        xs = List.range' (lo + 1) first ∧
          ys = List.range' (lo + first + 1) (count - first) := by
    obtain ⟨first, hle, hxs, hys⟩ := List.range'_eq_append_iff.mp h.symm
    exact ⟨first, hle, hxs, by rwa [Nat.mul_one, Nat.add_right_comm] at hys⟩
  induction n generalizing whole lo count with
  | empty => exact Matcher.careful_of_test fun st k => .inl ⟨_, Nat.le_refl _, rfl⟩
  | one test mode =>
    refine Matcher.careful_of_test fun st k => ?_
    rw [run]
    split
    · exact .inl ⟨_, Nat.le_succ _, rfl⟩
    · exact .inr rfl
  | anchor a =>
    refine Matcher.careful_of_test fun st k => ?_
    rw [run]
    split
    · exact .inl ⟨_, Nat.le_refl _, rfl⟩
    · exact .inr rfl
  | seq a b iha ihb =>
    obtain ⟨first, hle, ha, hb⟩ := hshare h
    have hb := ihb whole (fun hwhole => (hsteady hwhole).2) hb
    rw [Nat.add_assoc, Nat.add_sub_cancel' hle] at hb
    exact (iha whole (fun hwhole => (hsteady hwhole).1) ha).seq hb (Nat.le_add_right _ _)
      (Nat.add_le_add_left hle lo)
  | alt a b iha ihb =>
    obtain ⟨first, hle, ha, hb⟩ := hshare h
    have hb := ihb whole (fun hwhole => (hsteady hwhole).2) hb
    rw [Nat.add_assoc, Nat.add_sub_cancel' hle] at hb
    exact (iha whole (fun hwhole => (hsteady hwhole).1) ha).either hb (Nat.le_add_right _ _)
      (Nat.add_le_add_left hle lo)
  | group number body ih =>
    cases number with
    | none => exact ih whole hsteady h
    | some g =>
      cases count with
      | zero => cases h
      | succ count =>
        obtain ⟨rfl, hbody⟩ := List.cons.inj h
        have hbody := ih whole hsteady hbody
        rw [Nat.add_assoc, Nat.add_comm 1] at hbody
        exact hbody.group (by omega)
  | again number mode =>
    refine Matcher.careful_of_test fun st k => ?_
    rw [run]
    split
    · split
      · exact .inl ⟨_, Nat.le_add_right _ _, rfl⟩
      · exact .inr rfl
    · exact .inr rfl
  | given number yes no ihyes ihno =>
    obtain ⟨first, hle, hyes, hno⟩ := hshare h
    have hyes := (ihyes whole (fun hwhole => (hsteady hwhole).1) hyes).mono (Nat.le_refl lo)
      (Nat.add_le_add_left hle lo)
    have hno := ihno whole (fun hwhole => (hsteady hwhole).2) hno
    rw [Nat.add_assoc, Nat.add_sub_cancel' hle] at hno
    have hno := hno.mono (Nat.le_add_right lo first) (Nat.le_refl _)
    intro opened bound st k P hfresh hordered hk
    rw [run]
    split
    · exact hyes opened bound st k P hfresh hordered hk
    · exact hno opened bound st k P hfresh hordered hk
  | loop least most greed body ih =>
    intro opened bound st k P hfresh hordered hk
    rw [run]
    split
    · exact Matcher.careful_unitLoop (Nat.le_add_right _ _) _ _ _ _ _ opened bound st k P hfresh
        hordered hk
    · have hbody := ih (whole || greed != .possessive) (fun hwhole => ?_) h
      · refine hbody.loop greed (Nat.le_add_right _ _) (fun hwhole hgreed => ?_) s.size least most
          opened bound st k P hfresh hordered hk
        have hnil : List.range' (lo + 1) count = [] := h.symm.trans (hsteady hwhole hgreed)
        have hcount : count = 0 := by simpa using hnil
        exact Nat.le_of_eq (by rw [hcount, Nat.add_zero])
      · obtain ⟨hwhole, hgreed⟩ := Bool.or_eq_false_iff.mp hwhole
        exact steady_of_groupNumbers_eq_nil (hsteady hwhole (by simpa using hgreed))
  | atomic body ih => exact (ih whole hsteady h).atomic
  | ahead negated body ih =>
    exact (ih whole hsteady h).look (Nat.le_add_right _ _) negated fun st => some st.position
  | behind negated least most body ih =>
    have hlook := (ih whole hsteady h).look (Nat.le_add_right _ _) negated fun st =>
      if least ≤ st.position then some (st.position - least) else none
    intro opened bound st k P hfresh hordered hk
    have hlook := hlook opened bound st k P hfresh hordered hk
    dsimp only at hlook
    rw [run]
    split at hlook
    · next hle => rwa [if_pos hle]
    · next hlt => rwa [if_neg hlt]

end Node

/-! ### Searches -/

namespace Pattern

variable {p : Pattern} {s : Array Char}

/-- Where every group ends where it begins or later, every match can be told of. -/
theorem exists_complete_eq_ok {st : MatchState} (h : st.marks.Ordered []) (start : Nat) :
    ∃ m, p.complete s start st = .ok m := by
  have hcapture (g : Nat) : ∃ text, capture s st.marks g = .ok text := by
    rw [capture]
    split
    · next a b hends =>
      obtain ⟨ha, hb⟩ := Marks.ends?_eq_some_iff.mp hends
      rw [if_pos (h (g - 1) (List.not_mem_nil) a b ha hb)]
      exact ⟨_, rfl⟩
    · exact ⟨_, rfl⟩
  have hall : ∃ texts, (List.range' 1 p.groups).mapM (capture s st.marks) = .ok texts := by
    choose text htext using hcapture
    exact ⟨(List.range' 1 p.groups).map text,
      Except.mapM_eq_ok_iff.mpr (by
        rw [List.map_map]
        exact List.map_congr_left fun g _ => htext g)⟩
  obtain ⟨texts, htexts⟩ := hall
  exact ⟨_, Except.map_eq_ok_iff.mpr ⟨texts, htexts, rfl⟩⟩

/-- A steady pattern is never found where it cannot be told of. -/
theorem matchAt_ne_error (hsteady : p.root.Steady)
    (hnumbers : p.root.groupNumbers = List.range' 1 p.groups) {advance : Bool} {position : Nat}
    {e : SearchFault} : p.matchAt s advance position ≠ some (.error e) := by
  intro h
  rw [matchAt] at h
  split at h
  · have hcareful : Matcher.Careful false 0 (0 + p.groups) (p.root.run s false) :=
      p.root.careful_run false (fun _ => hsteady) hnumbers
    have hsettles := hcareful [] p.groups ⟨position, []⟩
      (fun st => if advance && st.position == position then .failed st.marks else .matched st)
      (fun out => out.marks.Ordered [])
      (fun _ => ⟨Nat.zero_le _, Nat.le_of_eq (Nat.zero_add _)⟩)
      (fun g _ a b ha _ => by cases ha)
      (fun next hnext => by
        split
        · exact (Marks.Resumes.refl hnext.advances.ordered).spares
        · exact hnext.advances.ordered)
    split at h
    · next st hst =>
      rw [hst] at hsettles
      obtain ⟨m, hm⟩ := exists_complete_eq_ok (p := p) (s := s) hsettles position
      rw [hm] at h
      cases h
    · cases h
  · cases h

/-- **A search for a steady pattern does not break off.** -/
theorem fault_scan_eq_none {text : Text} {flags : Flags} (h : compile text flags = .ok p)
    (hsteady : p.root.Steady) (source : Text) : (p.scan source).fault = none := by
  have hsearch {s : Array Char} {more : Nat} {advance : Bool} {position : Nat} {e : SearchFault} :
      p.search s more advance position ≠ some (.error e) := by
    intro he
    obtain ⟨advance, begins, hmatch⟩ := exists_matchAt_of_search he
    exact matchAt_ne_error hsteady (groupNumbers_eq h) hmatch
  have hscan (s : Array Char) (limit : Nat) (advance : Bool) (position : Nat) :
      (p.scanFrom s limit advance position).fault = none := by
    induction limit generalizing advance position with
    | zero => rfl
    | succ limit ih =>
      rw [scanFrom_succ]
      split
      · rfl
      · next he => exact absurd he hsearch
      · exact ih _ _
  exact hscan _ _ _ _

end Pattern

end Substitution
