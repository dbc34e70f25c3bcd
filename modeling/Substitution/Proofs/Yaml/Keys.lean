import Substitution.Proofs.Except
import Substitution.Proofs.Value.Keys
import Substitution.Yaml.Meaning

/-!
# The keys of mappings that are read

Whatever a document says, and however often it says it, the keys of a mapping that is read from it
are all different: the value of a document is such a mapping, if it is one, and so are the items of
a list (`Substitution.Yaml.keyed_of_read`, `Substitution.Yaml.keyed_items_of_read`).

A mapping gets its entries one after another, those that are taken over from others included, and
this is the only way in which a mapping comes about (`Substitution.Yaml.Meaning.keyed_ofMapping`).
Scalars are no mappings. An alias has the value of what it stands for, and to know that this is
right it is enough to know it for one alias less.
-/

namespace Substitution

namespace Yaml

/-! ### Scalars -/

/-- **A scalar is no mapping and no list.** -/
theorem scalarValue_ne {tag : Tag} {t : Text} {v : Value} (h : scalarValue tag t = .ok v) :
    (∀ entries, v ≠ .map entries) ∧ ∀ items, v ≠ .list items := by
  cases tag with
  | null =>
    cases h
    exact ⟨nofun, nofun⟩
  | str =>
    cases h
    exact ⟨nofun, nofun⟩
  | bool =>
    obtain ⟨b, -, rfl⟩ := Except.map_eq_ok_iff.mp (Except.mapError_eq_ok_iff.mp h)
    exact ⟨nofun, nofun⟩
  | int =>
    obtain ⟨n, -, rfl⟩ := Except.map_eq_ok_iff.mp (Except.mapError_eq_ok_iff.mp h)
    exact ⟨nofun, nofun⟩
  | float =>
    obtain ⟨x, -, rfl⟩ := Except.map_eq_ok_iff.mp (Except.mapError_eq_ok_iff.mp h)
    exact ⟨nofun, nofun⟩
  | binary =>
    rw [scalarValue, binary] at h
    split at h
    · cases h
    split at h
    · cases h
      exact ⟨nofun, nofun⟩
    · cases h
  | timestamp =>
    have h := Except.mapError_eq_ok_iff.mp h
    rw [timestamp] at h
    split at h
    · cases h
    have h := Except.mapError_eq_ok_iff.mp h
    rw [Timestamp.value] at h
    split at h
    · obtain ⟨d, -, rfl⟩ := Except.map_eq_ok_iff.mp h
      exact ⟨nofun, nofun⟩
    · obtain ⟨d, -, rfl⟩ := Except.map_eq_ok_iff.mp h
      exact ⟨nofun, nofun⟩
  | _ => cases h

/-! ### Meanings -/

/-- The parts of a list are built one by one. -/
theorem Built.forall_mem_of_all {α : Type} {P : α → Prop} {parts : List (Built α)} {xs : List α}
    (h : Built.all parts = .ok xs) (hparts : ∀ part ∈ parts, ∀ x, part = .ok x → P x) :
    ∀ x ∈ xs, P x := by
  induction parts generalizing xs with
  | nil =>
    cases h
    exact nofun
  | cons part rest ih =>
    obtain ⟨hpart, hrest⟩ := List.forall_mem_cons.mp hparts
    obtain ⟨⟨y, ys⟩, hboth, rfl⟩ := Except.map_eq_ok_iff.mp h
    cases part with
    | error f => cases hall : Built.all rest <;> rw [hall] at hboth <;> cases hboth
    | ok first =>
      cases hall : Built.all rest with
      | error f => rw [hall] at hboth; cases hboth
      | ok others =>
        rw [hall] at hboth
        cases hboth
        exact List.forall_mem_cons.mpr ⟨hpart _ rfl, ih hall hrest⟩

namespace Meaning

/-- **What is meant has different keys**: the value, the items of a list, and a pair. -/
structure Keyed (m : Meaning) : Prop where
  value : ∀ path depth v, m.value path depth = .ok v → v.Keyed
  items : ∀ path depth items, m.value path depth = .ok (.list items) → ∀ v ∈ items, v.Keyed
  pair : ∀ path depth v, m.pair path depth = .ok v → v.Keyed

theorem value_ofScalar_ne {tag : Tag} {t : Text} {path : List Text} {depth : Nat} {v : Value}
    (h : (ofScalar tag t).value path depth = .ok v) :
    (∀ entries, v ≠ .map entries) ∧ ∀ items, v ≠ .list items := by
  have hscalar : (scalarValue tag t).mapError (DeepFault.mk depth) = .ok v := by
    cases tag <;> first | exact h | cases h
  exact scalarValue_ne (Except.mapError_eq_ok_iff.mp hscalar)

theorem keyed_ofScalar (tag : Tag) (t : Text) : (ofScalar tag t).Keyed where
  value _ _ _ h entries hv := absurd hv ((value_ofScalar_ne h).1 entries)
  items _ _ items h := absurd rfl ((value_ofScalar_ne h).2 items)
  pair _ _ _ h := nomatch h

theorem keyed_ofSequence (free : Nat) (anchor : Option Text) (tag : Tag) {items : List Meaning}
    (h : ∀ m ∈ items, m.Keyed) : (ofSequence free anchor tag items).Keyed := by
  have hlist : ∀ path depth v, (ofSequence free anchor tag items).value path depth = .ok v →
      ∃ values, v = .list values ∧ ∀ w ∈ values, w.Keyed := by
    intro path depth v hv
    cases tag with
    | seq =>
      obtain ⟨values, hall, rfl⟩ := Except.map_eq_ok_iff.mp hv
      refine ⟨values, rfl, Built.forall_mem_of_all hall fun part hpart w hw => ?_⟩
      obtain ⟨m, hm, rfl⟩ := List.mem_map.mp hpart
      exact (h m hm).value _ _ _ hw
    | pairs =>
      obtain ⟨values, hall, rfl⟩ := Except.map_eq_ok_iff.mp hv
      refine ⟨values, rfl, Built.forall_mem_of_all hall fun part hpart w hw => ?_⟩
      obtain ⟨m, hm, rfl⟩ := List.mem_map.mp hpart
      exact (h m hm).pair _ _ _ hw
    | _ => cases hv
  refine ⟨fun path depth v hv entries hentries => ?_, fun path depth values hv => ?_, nofun⟩
  · obtain ⟨values, rfl, -⟩ := hlist path depth v hv
    cases hentries
  · obtain ⟨_, heq, hkeyed⟩ := hlist path depth _ hv
    cases heq
    exact hkeyed

/-- **A mapping gets its entries one after another**, so its keys are different. -/
theorem value_ofMapping {free : Nat} {anchor : Option Text} {tag : Tag}
    {parts : List (Meaning × Meaning)} {path : List Text} {depth : Nat} {v : Value}
    (h : (ofMapping free anchor tag parts).value path depth = .ok v) :
    v.Keyed ∧ ∀ items, v ≠ .list items := by
  -- A mapping that has the type of a scalar has a scalar for its value.
  have hscalar : (∀ entries, v ≠ .map entries) ∧ (∀ items, v ≠ .list items) →
      v.Keyed ∧ ∀ items, v ≠ .list items :=
    fun hne => ⟨fun entries hentries => absurd hentries (hne.1 entries), hne.2⟩
  cases tag with
  | map =>
    dsimp only [ofMapping] at h
    split at h
    · cases h
    · obtain ⟨entries, -, rfl⟩ := Except.map_eq_ok_iff.mp h
      refine ⟨fun _ hentries => ?_, nofun⟩
      cases hentries
      exact Value.distinctKeys_entriesOf entries
  | set =>
    dsimp only [ofMapping] at h
    split at h
    · cases h
    · obtain ⟨entries, -, rfl⟩ := Except.map_eq_ok_iff.mp h
      exact hscalar ⟨nofun, nofun⟩
  | seq => cases h
  | pairs => cases h
  | _ =>
    dsimp only [ofMapping] at h
    split at h
    · cases h
    split at h
    · cases h
    · exact hscalar (scalarValue_ne (Except.mapError_eq_ok_iff.mp h))

theorem keyed_ofMapping (free : Nat) (anchor : Option Text) (tag : Tag)
    (parts : List (Meaning × Meaning)) : (ofMapping free anchor tag parts).Keyed where
  value _ _ _ h := (value_ofMapping h).1
  items _ _ items h := absurd rfl ((value_ofMapping h).2 items)
  pair _ _ v h := by
    dsimp only [ofMapping] at h
    split at h
    · obtain ⟨_, -, rfl⟩ := Except.map_eq_ok_iff.mp h
      exact nofun
    · cases h

theorem keyed_ofAlias (anchored : List (Text × Node)) (name : Text) {referent : Text → Meaning}
    (h : ∀ name, (referent name).Keyed) : (ofAlias anchored name referent).Keyed := by
  have hvalue : ∀ path depth v, (ofAlias anchored name referent).value path depth = .ok v →
      v = .listAgain ∨ v = .mapAgain ∨ (referent name).value path depth = .ok v := by
    intro path depth v hv
    dsimp only [ofAlias] at hv
    split at hv
    · split at hv
      · exact .inl (Except.ok.inj hv).symm
      · exact .inr (.inl (Except.ok.inj hv).symm)
    · exact .inr (.inr hv)
  refine ⟨fun path depth v hv => ?_, fun path depth items hv => ?_, (h name).pair⟩
  · rcases hvalue path depth v hv with rfl | rfl | hv
    · exact nofun
    · exact nofun
    · exact (h name).value path depth v hv
  · rcases hvalue path depth _ hv with heq | heq | hv
    · cases heq
    · cases heq
    · exact (h name).items path depth items hv

end Meaning

/-! ### Documents -/

section Node

variable (free : Nat) (anchored : List (Text × Node)) {referent : Text → Meaning}

mutual

/-- **A node means something with different keys**, if what aliases stand for does. -/
theorem keyed_meaning (h : ∀ name, (referent name).Keyed) :
    (n : Node) → (n.meaning free anchored referent).Keyed
  | .scalar _ tag text => Meaning.keyed_ofScalar tag text
  | .sequence anchor tag items =>
    Meaning.keyed_ofSequence free anchor tag (keyed_meanings h items)
  | .mapping anchor tag _ => Meaning.keyed_ofMapping free anchor tag _
  | .aliasOf name => Meaning.keyed_ofAlias anchored name h

theorem keyed_meanings (h : ∀ name, (referent name).Keyed) :
    (items : List Node) → ∀ m ∈ Node.meaning.meanings free anchored referent items, m.Keyed
  | [] => nofun
  | n :: rest => List.forall_mem_cons.mpr ⟨keyed_meaning h n, keyed_meanings h rest⟩

end

end Node

/-- What aliases stand for has different keys, however many of them are followed. -/
theorem keyed_referent (free : Nat) (anchored : List (Text × Node)) (limit : Nat) (name : Text) :
    (referent free anchored limit name).Keyed := by
  induction limit generalizing name with
  | zero => exact Meaning.keyed_ofScalar .unknown []
  | succ limit ih =>
    rw [referent]
    split
    · exact Meaning.keyed_ofScalar .unknown []
    · exact keyed_meaning free anchored ih _

theorem exists_value_of_read {free : Nat} {t : Text} {v : Value} (h : read free t = .ok v) :
    v = .null ∨ ∃ m : Meaning, m.Keyed ∧ m.value [] 0 = .ok v := by
  obtain ⟨document, -, h⟩ := Except.bind_eq_ok_iff.mp h
  cases document with
  | none => exact .inl (Except.ok.inj h).symm
  | some root =>
    exact .inr ⟨_, keyed_meaning free _ (keyed_referent free _ _) root,
      Except.mapError_eq_ok_iff.mp h⟩

/-- **The value of a document has different keys.** -/
theorem keyed_of_read {free : Nat} {t : Text} {v : Value} (h : read free t = .ok v) :
    v.Keyed := by
  rcases exists_value_of_read h with rfl | ⟨m, hm, hv⟩
  · exact nofun
  · exact hm.value _ _ v hv

/-- **The items of a document that holds a list have different keys.** -/
theorem keyed_items_of_read {free : Nat} {t : Text} {items : List Value}
    (h : read free t = .ok (.list items)) : ∀ v ∈ items, v.Keyed := by
  rcases exists_value_of_read h with heq | ⟨m, hm, hv⟩
  · cases heq
  · exact hm.items _ _ items hv

end Yaml

end Substitution
