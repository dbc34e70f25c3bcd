import Substitution.Options
import Substitution.Proofs.Except
import Substitution.Proofs.Value.Keys

/-!
# What a mapping of options says

Reading options from a mapping is a row of five checks: whether there are keys that options do not
have, and then whether each of the four values is a truth value. The first check that finds a fault
decides what is reported (`Substitution.Options.error?_ofMapping`), and the order of the checks has
nothing to do with the order of the entries. Where no check finds one, the options are what stands
at the four keys (`Substitution.Options.ofMapping_eq_ok_iff`).

The checks look at a mapping only through what stands at its keys and through the collection of its
unknown keys, which are sorted by their texts before they are shown. So the order of the entries is
nowhere seen: `Substitution.Options.ofMapping_perm`.
-/

namespace Substitution

/-! ### The order of texts -/

namespace Text

theorem le_total (a b : Text) : le a b = true ∨ le b a = true := by
  induction a generalizing b with
  | nil => exact .inl (by rw [le])
  | cons x xs ih =>
    cases b with
    | nil => exact .inr (by rw [le])
    | cons y ys =>
      simp only [le, Bool.or_eq_true, Bool.and_eq_true, beq_iff_eq, decide_eq_true_eq]
      by_cases hxy : x = y
      · subst hxy
        simpa using ih ys
      · have hne : x.toNat ≠ y.toNat := fun h => hxy (Char.toNat_inj.mp h)
        omega

theorem le_trans {a b c : Text} (hab : le a b = true) (hbc : le b c = true) : le a c = true := by
  induction a generalizing b c with
  | nil => rw [le]
  | cons x xs ih =>
    cases b with
    | nil => cases hab
    | cons y ys =>
      cases c with
      | nil => cases hbc
      | cons z zs =>
        simp only [le, Bool.or_eq_true, Bool.and_eq_true, beq_iff_eq, decide_eq_true_eq] at *
        rcases hab with hab | ⟨rfl, hab⟩
        · rcases hbc with hbc | ⟨rfl, hbc⟩
          · exact .inl (by omega)
          · exact .inl hab
        · rcases hbc with hbc | ⟨rfl, hbc⟩
          · exact .inl hbc
          · exact .inr ⟨rfl, ih hab hbc⟩

theorem le_antisymm {a b : Text} (hab : le a b = true) (hba : le b a = true) : a = b := by
  induction a generalizing b with
  | nil =>
    cases b with
    | nil => rfl
    | cons y ys => cases hba
  | cons x xs ih =>
    cases b with
    | nil => cases hab
    | cons y ys =>
      simp only [le, Bool.or_eq_true, Bool.and_eq_true, beq_iff_eq, decide_eq_true_eq] at *
      rcases hab with hab | ⟨rfl, hab⟩
      · rcases hba with hba | ⟨rfl, -⟩ <;> omega
      · rcases hba with hba | ⟨-, hba⟩
        · omega
        · rw [ih hab hba]

theorem pairwise_mergeSort (texts : List Text) :
    (texts.mergeSort le).Pairwise fun a b => le a b = true := by
  have htrans : ∀ x y z : Text, le x y = true → le y z = true → le x z = true :=
    fun _ _ _ => le_trans
  have htotal : ∀ x y : Text, (le x y || le y x) = true :=
    fun x y => (Bool.or_eq_true _ _).mpr (le_total x y)
  exact List.pairwise_mergeSort htrans htotal texts

/-- Texts in order are known by which they are. -/
theorem eq_mergeSort_iff {sorted texts : List Text} :
    sorted = texts.mergeSort le ↔
      sorted.Perm texts ∧ sorted.Pairwise fun a b => le a b = true := by
  constructor
  · rintro rfl
    exact ⟨List.mergeSort_perm texts le, pairwise_mergeSort texts⟩
  · rintro ⟨hperm, h⟩
    exact List.Perm.eq_of_pairwise (fun _ _ _ _ => le_antisymm) h (pairwise_mergeSort texts)
      (hperm.trans (List.mergeSort_perm texts le).symm)

/-- **Sorted texts do not tell in which order they were.** -/
theorem mergeSort_perm {a b : List Text} (h : a.Perm b) :
    a.mergeSort le = b.mergeSort le :=
  eq_mergeSort_iff.mpr ⟨(List.mergeSort_perm a le).trans h, pairwise_mergeSort a⟩

end Text

namespace Options

variable {place : Text} {entries others : List (Value × Value)}

/-! ### The checks -/

/-- The keys that options do not have. -/
def unknownKeys (entries : List (Value × Value)) : List Value :=
  (entries.map Prod.fst).filter fun k => !isKnownKey k

/-- What is reported of keys that should not be there, if there are any. -/
def keysFault? (place : Text) (unknown : List Value) : Option OptionsError :=
  if unknown = [] then none
  else if unknown.any Value.isTooLong then some .tooLongToShow
  else some (.unknownKeys place ((unknown.map Value.plainText).mergeSort Text.le))

/-- What is reported of the value at a key, if there is one and it is no truth value. -/
def flagFault? (place : Text) (entries : List (Value × Value)) (key : String) :
    Option OptionsError :=
  match Value.lookup key entries with
  | none => none
  | some (.bool _) => none
  | some v => some (if v.isTooLong then .tooLongToShow else .notBoolean place key.toList v)

/-- **A truth value stands at a key**, or nothing does and the value is the default. -/
def FlagAt (entries : List (Value × Value)) (key : String) (default b : Bool) : Prop :=
  Value.lookup key entries = some (.bool b) ∨ Value.lookup key entries = none ∧ b = default

/-- **What a mapping says of the options**, at its four keys. -/
structure Says (entries : List (Value × Value)) (o : Options) : Prop where
  all : FlagAt entries "global" true o.all
  flags : ∃ ignoreCase multiline dotAll, FlagAt entries "ignorecase" false ignoreCase ∧
    FlagAt entries "multiline" false multiline ∧ FlagAt entries "dotall" false dotAll ∧
    o.flags = Overrides.flags ⟨false, ignoreCase, multiline, dotAll⟩

/-- What a mapping says of the options depends only on what stands at its four keys. -/
theorem Says.of_lookup {o : Options} (h : Says entries o)
    (hlookup : ∀ key : String, key.toList ∈ OptionsError.allowed →
      Value.lookup key others = Value.lookup key entries) : Says others o := by
  have hflag {key : String} (hkey : key.toList ∈ OptionsError.allowed) {default b : Bool}
      (h : FlagAt entries key default b) : FlagAt others key default b := by
    rw [FlagAt, hlookup key hkey]
    exact h
  obtain ⟨hall, ignoreCase, multiline, dotAll, hignoreCase, hmultiline, hdotAll, hflags⟩ := h
  exact ⟨hflag (by decide) hall, ignoreCase, multiline, dotAll, hflag (by decide) hignoreCase,
    hflag (by decide) hmultiline, hflag (by decide) hdotAll, hflags⟩

theorem error?_flagAt (key : String) (default : Bool) :
    (flagAt place entries key default).error? = flagFault? place entries key := by
  rw [flagAt, flagFault?]
  cases Value.lookup key entries with
  | none => rfl
  | some v => cases v <;> rfl

theorem flagAt_eq_ok_iff {key : String} {default b : Bool} :
    flagAt place entries key default = .ok b ↔ FlagAt entries key default b := by
  rw [flagAt, FlagAt]
  cases Value.lookup key entries with
  | none => simp [eq_comm]
  | some v => cases v <;> simp

/-- **The checks in their order**: first the keys, and then the values at the four keys. -/
theorem ofMapping_eq (place : Text) (entries : List (Value × Value)) :
    ofMapping place entries =
      (match keysFault? place (unknownKeys entries) with
        | some e => .error e
        | none => .ok ()) >>= fun () =>
      flagAt place entries "global" true >>= fun all =>
      flagAt place entries "ignorecase" false >>= fun ignoreCase =>
      flagAt place entries "multiline" false >>= fun multiline =>
      flagAt place entries "dotall" false >>= fun dotAll =>
      .ok ⟨all, Overrides.flags ⟨false, ignoreCase, multiline, dotAll⟩⟩ := by
  have hunknown : (entries.map Prod.fst).filter (fun k => !isKnownKey k) = unknownKeys entries :=
    rfl
  simp only [ofMapping, hunknown, keysFault?]
  by_cases hnone : unknownKeys entries = []
  · rw [hnone]
    rfl
  · rw [if_neg hnone, if_pos hnone]
    split <;> rfl

/-- **The first check that finds a fault decides what is reported.** -/
theorem error?_ofMapping (place : Text) (entries : List (Value × Value)) :
    (ofMapping place entries).error? =
      (keysFault? place (unknownKeys entries)).or ((flagFault? place entries "global").or
        ((flagFault? place entries "ignorecase").or ((flagFault? place entries "multiline").or
          (flagFault? place entries "dotall")))) := by
  rw [ofMapping_eq, ← error?_flagAt "global" true, ← error?_flagAt "ignorecase" false,
    ← error?_flagAt "multiline" false, ← error?_flagAt "dotall" false]
  cases keysFault? place (unknownKeys entries) with
  | some e => rfl
  | none =>
    change (flagAt place entries "global" true >>= _).error? = Option.or _ _
    refine Except.error?_bind fun all _ => ?_
    refine Except.error?_bind fun ignoreCase _ => ?_
    refine Except.error?_bind fun multiline _ => ?_
    cases flagAt place entries "dotall" false <;> rfl

/-- **A mapping gives options exactly if there are no unknown keys** and truth values stand at the
four keys; the options are what it says. -/
theorem ofMapping_eq_ok_iff {o : Options} :
    ofMapping place entries = .ok o ↔ unknownKeys entries = [] ∧ Says entries o := by
  have hkeys : keysFault? place (unknownKeys entries) = none ↔ unknownKeys entries = [] := by
    rw [keysFault?]
    split
    · simp [*]
    split <;> simp [*]
  rw [ofMapping_eq, ← hkeys]
  cases keysFault? place (unknownKeys entries) with
  | some e => exact iff_of_false nofun fun h => nomatch h.1
  | none =>
    change flagAt place entries "global" true >>= _ = .ok o ↔ _
    simp only [Except.bind_eq_ok_iff, flagAt_eq_ok_iff, Except.ok.injEq, true_and]
    constructor
    · rintro ⟨all, hall, ignoreCase, hignoreCase, multiline, hmultiline, dotAll, hdotAll, rfl⟩
      exact ⟨hall, ignoreCase, multiline, dotAll, hignoreCase, hmultiline, hdotAll, rfl⟩
    · rintro ⟨hall, ignoreCase, multiline, dotAll, hignoreCase, hmultiline, hdotAll, hflags⟩
      refine ⟨o.all, hall, ignoreCase, hignoreCase, multiline, hmultiline, dotAll, hdotAll, ?_⟩
      rw [← hflags]

/-! ### The order of the entries -/

theorem unknownKeys_perm (h : entries.Perm others) :
    (unknownKeys entries).Perm (unknownKeys others) :=
  (h.map Prod.fst).filter _

/-- Which keys are unknown is told by their collection. -/
theorem keysFault?_perm {unknown unknown' : List Value} (h : unknown.Perm unknown') :
    keysFault? place unknown' = keysFault? place unknown := by
  have hnil : unknown' = [] ↔ unknown = [] := by
    rw [← List.length_eq_zero_iff, ← h.length_eq, List.length_eq_zero_iff]
  rw [keysFault?, keysFault?, Text.mergeSort_perm (h.map Value.plainText), h.any_eq]
  simp only [hnil]

theorem flagAt_perm (hkeys : Value.DistinctKeys entries) (h : entries.Perm others) (key : String)
    (default : Bool) : flagAt place others key default = flagAt place entries key default := by
  rw [flagAt, flagAt, Value.lookup_perm hkeys h]

/-- **The order of the entries is nowhere seen**, neither in the options nor in what is reported. -/
theorem ofMapping_perm (hkeys : Value.DistinctKeys entries) (h : entries.Perm others) :
    ofMapping place others = ofMapping place entries := by
  rw [ofMapping_eq, ofMapping_eq, keysFault?_perm (unknownKeys_perm h)]
  simp only [flagAt_perm hkeys h]

end Options

end Substitution
