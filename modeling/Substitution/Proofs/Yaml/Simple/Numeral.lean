import Mathlib.Data.List.TakeWhile
import Substitution.Proofs.Yaml.Simple.Scalar
import Substitution.Yaml.Numeral

/-!
# The numerals of a simple document

A scalar that has the form of a number can be read, up to what its digits spell: it has a digit or a
point, so it is not empty (`Substitution.Yaml.meets_integer`, `Substitution.Yaml.meets_decimal`). A
decimal in base sixty has one more place than colons, and in a simple document there are too few of
them to make too many places. A decimal is read in small letters, and these have no colons but those
of the text (`Substitution.Text.count_colon_lowered`).
-/

namespace Substitution

namespace Text

/-! ### Colons -/

/-- There is one more piece than separators. -/
theorem length_splitAtEach (separator : Char) (t : Text) :
    (splitAtEach separator t).length = t.count separator + 1 := by
  induction t with
  | nil => rfl
  | cons c rest ih =>
    rw [splitAtEach, List.count_cons]
    split
    next heq => rw [heq, List.length_cons, ih, beq_self_eq_true, if_pos rfl]
    next hne =>
      rw [beq_eq_false_iff_ne.mpr hne, if_neg Bool.false_ne_true]
      generalize splitAtEach separator rest = pieces at ih ⊢
      cases pieces with
      | nil => exact absurd ih.symm (Nat.succ_ne_zero _)
      | cons first others => exact ih

/-- No run of small letters ends at a colon or before it. -/
theorem colon_lt_of_mem_lowerRuns : ∀ r ∈ lowerRuns, (0x3A : Int) < r.first + r.shift := by
  have h : (lowerRuns.all fun r => (0x3A : Int) < r.first + r.shift) = true := by decide +kernel
  intro r hr
  simpa using Array.all_eq_true'.mp h r hr

theorem colon_lt_lowerCode {code : Nat} (h : 0x80 ≤ code) : 0x3A < lowerCode code := by
  rw [lowerCode, if_neg (Nat.not_lt.mpr h), mapCase]
  split
  next r hr =>
    have hmoves := Array.find?_some hr
    have hshift := colon_lt_of_mem_lowerRuns r (Array.mem_of_find?_eq_some hr)
    simp only [CaseRun.moves, Bool.and_eq_true, decide_eq_true_eq] at hmoves
    omega
  next => omega

theorem eq_of_ofNat_eq_colon {code : Nat} (h : Char.ofNat code = ':') : code = 0x3A := by
  by_cases hvalid : code.isValidChar
  · rw [Char.ofNat, dif_pos hvalid] at h
    exact congrArg Char.toNat h
  · rw [Char.ofNat, dif_neg hvalid] at h
    exact absurd h (by decide)

/-- A colon is no small letter of anything else. -/
theorem eq_colon_of_lowerCode {c : Char} (h : Char.ofNat (lowerCode c.toNat) = ':') : c = ':' := by
  have hcode := eq_of_ofNat_eq_colon h
  by_cases hlarge : 0x80 ≤ c.toNat
  · have := colon_lt_lowerCode hlarge
    omega
  · rw [lowerCode, if_pos (Nat.not_le.mp hlarge)] at hcode h
    split at hcode
    next hcapital =>
      simp only [Bool.and_eq_true, decide_eq_true_eq] at hcapital
      omega
    next hsmall => rwa [if_neg hsmall, Char.ofNat_toNat] at h

/-- **A text in small letters has no more colons.** -/
theorem count_colon_lowered (t : Text) : (lowered t).count ':' ≤ t.count ':' := by
  induction t with
  | nil => exact Nat.le_refl _
  | cons c rest ih =>
    have hfirst : (if c.toNat = 0x130 then ['i', Char.ofNat 0x307]
        else [Char.ofNat (lowerCode c.toNat)]).count ':' ≤ [c].count ':' := by
      split
      next => exact Nat.zero_le _
      next =>
        by_cases hcolon : Char.ofNat (lowerCode c.toNat) = ':'
        · rw [hcolon, eq_colon_of_lowerCode hcolon]
        · rw [List.count_singleton, beq_eq_false_iff_ne.mpr hcolon, if_neg Bool.false_ne_true]
          exact Nat.zero_le _
    have hcons : (c :: rest).count ':' = [c].count ':' + rest.count ':' := by
      rw [← List.singleton_append, List.count_append]
    rw [lowered, List.flatMap_cons, List.count_append, hcons]
    exact Nat.add_le_add hfirst ih

end Text

namespace Yaml

open Except (Meets)

variable {t : Text}

/-! ### Numerals -/

/-- A numeral with a digit is not empty, and then only what it spells can be wrong. -/
theorem meets_integer (h : dropSign (t.filter (· != '_')) ≠ []) :
    Meets (fun _ => True) ScalarFault.Simple (integer t) := by
  have hin (base : Nat) (u : Text) : Meets (fun _ => True) ScalarFault.Simple (integerIn base u) :=
    (Meets.any _).mapError fun _ _ => trivial
  rw [integer]
  dsimp only
  split
  next hnil => exact absurd hnil h
  next => exact .ok trivial
  next => exact (hin _ _).map fun _ _ => trivial
  next => exact (hin _ _).map fun _ _ => trivial
  next => exact (hin _ _).map fun _ _ => trivial
  next => exact (Meets.mapM fun u _ => hin 10 u).bind fun _ _ => .ok trivial

/-- Behind its sign an integer begins with a digit. -/
theorem exists_digit_of_isInteger (h : isInteger t = true) :
    ∃ d rest, dropSign t = d :: rest ∧ isDigit d = true := by
  rw [isInteger] at h
  -- The first four forms begin with a zero, and the last one with a first place in base sixty.
  split at h
  next heq => exact ⟨_, _, heq, rfl⟩
  next heq => exact ⟨_, _, heq, rfl⟩
  next heq => exact ⟨_, _, heq, rfl⟩
  next heq => exact ⟨_, _, heq, rfl⟩
  next =>
    generalize dropSign t = u at h
    cases u with
    | nil => cases h
    | cons d rest =>
      refine ⟨d, rest, rfl, ?_⟩
      rw [Text.splitAtEach] at h
      split at h
      next first places hsplit =>
        rw [Bool.and_eq_true] at h
        split at hsplit
        next =>
          obtain ⟨rfl, -⟩ := List.cons.inj hsplit
          cases h.1
        next =>
          split at hsplit
          all_goals
            obtain ⟨rfl, -⟩ := List.cons.inj hsplit
            exact (Bool.and_eq_true_iff.mp h.1).1
      next => cases h

/-- A digit stays when the underscores go. -/
theorem dropSign_filter_ne_nil {d : Char} {rest : Text} (h : dropSign t = d :: rest)
    (hd : isDigit d = true) : dropSign (t.filter (· != '_')) ≠ [] := by
  have hne (c : Char) (hc : isDigit c = false) : d ≠ c := fun heq => by
    rw [heq, hc] at hd
    cases hd
  have hkept : (d :: rest).filter (· != '_') = d :: rest.filter (· != '_') :=
    List.filter_cons_of_pos (bne_iff_ne.mpr (hne '_' rfl))
  -- The sign is dropped once more behind the filter, and a digit is none.
  have hcons (u : Text) : dropSign (d :: u) = d :: u := by
    rw [dropSign]
    · exact fun _ heq => absurd (List.cons.inj heq).1 (hne '+' rfl)
    · exact fun _ heq => absurd (List.cons.inj heq).1 (hne '-' rfl)
  unfold dropSign at h
  split at h
  next u =>
    rw [h, List.filter_cons_of_pos (by decide), hkept]
    exact List.cons_ne_nil _ _
  next u =>
    rw [h, List.filter_cons_of_pos (by decide), hkept]
    exact List.cons_ne_nil _ _
  next =>
    rw [h, hkept, hcons]
    exact List.cons_ne_nil _ _

theorem dropSign_isSuffix (t : Text) : dropSign t <:+ t := by
  unfold dropSign
  split
  · exact List.suffix_cons _ _
  · exact List.suffix_cons _ _
  · exact List.suffix_rfl

/-- A decimal that is not empty has not too many places, and then only what it spells can be
wrong. -/
theorem meets_decimal (h : t.filter (· != '_') ≠ []) (hcolons : t.count ':' < maxPlaces) :
    Meets (fun _ => True) ScalarFault.Simple (decimal t) := by
  have hof (u : Text) : Meets (fun _ => True) ScalarFault.Simple (decimalOf u) := by
    rw [decimalOf]
    split
    · exact .ok trivial
    · exact .error trivial
  have hlowered : Text.lowered (t.filter (· != '_')) ≠ [] := by
    cases hfilter : t.filter (· != '_') with
    | nil => exact absurd hfilter h
    | cons c u =>
      rw [Text.lowered, List.flatMap_cons]
      split <;> exact List.cons_ne_nil _ _
  rw [decimal]
  dsimp only
  refine .ite (fun hempty => absurd (List.isEmpty_iff.mp hempty) hlowered) fun _ => ?_
  refine .ite (fun _ => .ok trivial) fun _ => .ite (fun _ => .ok trivial) fun _ => ?_
  refine .ite (fun _ => ?_) fun _ => (hof _).map fun _ _ => trivial
  have hplaces : (Text.splitAtEach ':' (dropSign (Text.lowered (t.filter (· != '_'))))).length ≤
      maxPlaces := by
    rw [Text.length_splitAtEach]
    calc _ ≤ (Text.lowered (t.filter (· != '_'))).count ':' + 1 :=
          Nat.succ_le_succ ((dropSign_isSuffix _).sublist.count_le ':')
      _ ≤ (t.filter (· != '_')).count ':' + 1 := Nat.succ_le_succ (Text.count_colon_lowered _)
      _ ≤ t.count ':' + 1 := Nat.succ_le_succ (List.filter_sublist.count_le ':')
      _ ≤ maxPlaces := hcolons
  refine Meets.bind (Meets.mapM_length fun u _ => hof u) fun places hlength => ?_
  exact .ite (fun hmany => absurd hmany (by omega)) fun _ => .ok trivial

/-- A decimal has a point. -/
theorem point_mem_of_isDecimal (h : isDecimal t = true) : '.' ∈ t := by
  by_contra hpoint
  have hwhole : (dropSign t).takeWhile (· != '.') = dropSign t :=
    List.takeWhile_eq_self_iff.mpr fun c hc => by
      have hne : c ≠ '.' := fun heq => hpoint (heq ▸ (dropSign_isSuffix t).subset hc)
      simp [hne]
  rw [isDecimal] at h
  simp [hwhole] at h

end Yaml

end Substitution
