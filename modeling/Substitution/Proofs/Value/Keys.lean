import Substitution.Value.Basic

/-!
# Mappings as dictionaries

A mapping is a list of entries, but its keys are all different
(`Substitution.Value.DistinctKeys`), so it can be used without regard to their order: what stands at
a key is the value of the only entry that has it (`Substitution.Value.lookup_eq_some_iff`), and it
is found wherever the entry is (`Substitution.Value.lookup_perm`). Mappings that are made by setting
one entry after another are of this kind (`Substitution.Value.distinctKeys_entriesOf`).

Keys are compared by what they are worth, so a number can be the same key as a truth value. A text
is the same key as itself only.
-/

namespace Substitution

/-! ### When two keys are the same -/

theorem Binary64.eq_comm (x y : Binary64) : x.eq y = y.eq x := by
  cases x with
  | finite a m e =>
    cases y with
    | finite b n f =>
      rw [Bool.eq_iff_iff]
      simp only [Binary64.eq, Bool.or_eq_true, Bool.and_eq_true, beq_iff_eq]
      constructor <;> rintro (⟨h, h'⟩ | ⟨⟨rfl, rfl⟩, rfl⟩) <;> simp [*]
    | infinite b => rfl
    | nan b => rfl
  | infinite a =>
    cases y with
    | finite b n f => rfl
    | infinite b => exact Bool.beq_comm
    | nan b => rfl
  | nan a =>
    cases y with
    | nan b => exact Bool.and_comm a b
    | _ => rfl

theorem DateTime.agrees_comm (t u : DateTime) : t.agrees u = u.agrees t := by
  rw [agrees, agrees]
  cases t.offset with
  | none => cases u.offset <;> simp [BEq.comm]
  | some a => cases u.offset <;> simp [BEq.comm]

namespace Value

/-- **Being the same key goes both ways.** -/
theorem sameKey_comm (a b : Value) : a.sameKey b = b.sameKey a := by
  cases a <;> cases b <;>
    simp [sameKey, asInt?, Binary64.eq_comm, DateTime.agrees_comm, BEq.comm]

/-- A text is the same key as itself only. -/
theorem sameKey_str_iff {k : Value} {t : Text} : k.sameKey (.str t) = true ↔ k = .str t := by
  cases k <;> simp [sameKey, asInt?]

/-! ### Keys that are all different -/

/-- **The keys of a mapping are all different.** -/
def DistinctKeys (entries : List (Value × Value)) : Prop :=
  entries.Pairwise fun a b => a.1.sameKey b.1 = false

variable {entries others : List (Value × Value)}

theorem DistinctKeys.perm (h : DistinctKeys entries) (hperm : entries.Perm others) :
    DistinctKeys others :=
  List.Pairwise.perm h hperm fun hab => (sameKey_comm _ _).trans hab

theorem DistinctKeys.erase (h : DistinctKeys entries) (key : String) :
    DistinctKeys (erase key entries) :=
  List.Pairwise.filter _ h

/-- The entry that is set has a key that was there, or one that is not the same as any of them. -/
theorem fst_of_mem_setEntry {key value : Value} {entry : Value × Value}
    (h : entry ∈ setEntry key value entries) :
    (∃ old ∈ entries, old.1 = entry.1) ∨ entry.1 = key := by
  induction entries with
  | nil =>
    obtain rfl := List.mem_singleton.mp h
    exact .inr rfl
  | cons first rest ih =>
    obtain ⟨k, v⟩ := first
    rw [setEntry] at h
    split at h
    · rcases List.mem_cons.mp h with rfl | h
      · exact .inl ⟨(k, v), List.mem_cons_self, rfl⟩
      · exact .inl ⟨entry, List.mem_cons_of_mem _ h, rfl⟩
    · rcases List.mem_cons.mp h with rfl | h
      · exact .inl ⟨(k, v), List.mem_cons_self, rfl⟩
      · rcases ih h with ⟨old, hold, heq⟩ | heq
        · exact .inl ⟨old, List.mem_cons_of_mem _ hold, heq⟩
        · exact .inr heq

/-- **Setting an entry keeps the keys different.** -/
theorem DistinctKeys.setEntry (h : DistinctKeys entries) (key value : Value) :
    DistinctKeys (setEntry key value entries) := by
  induction entries with
  | nil => exact List.pairwise_singleton _ _
  | cons first rest ih =>
    obtain ⟨k, v⟩ := first
    obtain ⟨hfirst, hrest⟩ := List.pairwise_cons.mp h
    rw [Value.setEntry]
    split
    · exact List.pairwise_cons.mpr ⟨hfirst, hrest⟩
    · next hkey =>
      refine List.pairwise_cons.mpr ⟨fun entry hentry => ?_, ih hrest⟩
      rcases fst_of_mem_setEntry hentry with ⟨old, hold, heq⟩ | heq
      · rw [← heq]
        exact hfirst old hold
      · rw [heq]
        exact Bool.eq_false_iff.mpr hkey

/-- **A mapping that is made entry by entry has different keys.** -/
theorem distinctKeys_entriesOf (entries : List (Value × Value)) :
    DistinctKeys (entriesOf entries) := by
  have hfold : ∀ acc, DistinctKeys acc →
      DistinctKeys (entries.foldl (fun acc entry => setEntry entry.1 entry.2 acc) acc) := by
    induction entries with
    | nil => exact fun acc h => h
    | cons first rest ih => exact fun acc h => ih _ (h.setEntry first.1 first.2)
  exact hfold [] .nil

/-- **A value whose keys are all different**, if it is a mapping. -/
def Keyed (v : Value) : Prop :=
  ∀ entries, v = .map entries → DistinctKeys entries

/-! ### What stands at a key -/

theorem lookup_cons (key : String) (k v : Value) (rest : List (Value × Value)) :
    lookup key ((k, v) :: rest) =
      if k.sameKey (.str key.toList) then some v else lookup key rest := by
  rw [lookup, List.find?_cons]
  split <;> simp [*, lookup]

/-- **What stands at a text key** is the value of the only entry that has it. -/
theorem lookup_eq_some_iff (h : DistinctKeys entries) {key : String} {value : Value} :
    lookup key entries = some value ↔ (.str key.toList, value) ∈ entries := by
  induction entries with
  | nil => simp [lookup]
  | cons first rest ih =>
    obtain ⟨k, v⟩ := first
    obtain ⟨hfirst, hrest⟩ := List.pairwise_cons.mp h
    rw [lookup_cons]
    by_cases hk : k = .str key.toList
    · subst hk
      rw [if_pos (sameKey_str_iff.mpr rfl)]
      constructor
      · rintro ⟨rfl⟩
        exact List.mem_cons_self
      · intro hmem
        rcases List.mem_cons.mp hmem with heq | hmem
        · rw [(Prod.mk.inj heq).2]
        · have hother := hfirst _ hmem
          rw [sameKey_str_iff.mpr rfl] at hother
          cases hother
    · rw [if_neg fun hsame => hk (sameKey_str_iff.mp hsame), ih hrest, List.mem_cons]
      exact ⟨.inr, fun hmem => hmem.resolve_left fun heq => hk (Prod.mk.inj heq).1.symm⟩

/-- **What stands at a key does not depend on the order of the entries.** -/
theorem lookup_perm (h : DistinctKeys entries) (hperm : entries.Perm others) (key : String) :
    lookup key others = lookup key entries := by
  refine Option.ext fun value => ?_
  rw [lookup_eq_some_iff h, lookup_eq_some_iff (h.perm hperm)]
  exact hperm.mem_iff.symm

/-- What stands at a key is still there when another key is taken away. -/
theorem lookup_erase {key other : String} (hne : key.toList ≠ other.toList)
    (entries : List (Value × Value)) : lookup key (erase other entries) = lookup key entries := by
  induction entries with
  | nil => rfl
  | cons first rest ih =>
    obtain ⟨k, v⟩ := first
    rw [lookup_cons, erase, List.filter_cons]
    by_cases hk : k.sameKey (.str other.toList) = true
    · have hkey : ¬k.sameKey (.str key.toList) = true := by
        rw [sameKey_str_iff] at hk ⊢
        rintro rfl
        exact hne (Value.str.inj hk)
      rw [if_neg (by simp [hk]), if_neg hkey]
      exact ih
    · rw [if_pos (by simp [hk]), lookup_cons]
      split
      · rfl
      · exact ih

end Value

end Substitution
