import Substitution.Proofs.Options
import Substitution.Proofs.Overrides
import Substitution.Proofs.Yaml.Keys

/-!
# Well-typed mappings

A mapping gives options exactly if it is **well-typed**: each entry has one of four keys and a truth
value (`Substitution.Options.WellTyped`). What it gives is then said by its entries, and a flag is
on exactly if the truth value at its key is (`Substitution.Options.bits`).

A mapping that is not well-typed is reported for one of its faults (`Substitution.Options.Reports`).
Unknown keys count more than values of the wrong type, and all of them are listed. Of the values the
first one is reported, in the order of `Substitution.Options.keys` and not in that of the entries.

The keys of a mapping must be all different for this, and those of a mapping that is read from a
file are (`Substitution.Options.load_typed`).

A report shows keys and values, and there is one thing that cannot be shown: an integer with more
digits than are written. If what is to be reported holds such an integer, the report is that it is
too long. It takes the place of the other report and never comes without it
(`Substitution.Options.ofMapping_tooLong`).
-/

namespace Substitution

namespace Options

variable {place : Text} {entries others : List (Value × Value)} {key : String} {v : Value}
  {o : Options} {e : OptionsError}

/-! ### Entries -/

/-- The keys of options, in the order in which their values are looked at. -/
def keys : List String :=
  ["global", "ignorecase", "multiline", "dotall"]

/-- The bits of the flags that a mapping can turn on, each with its key. -/
def bits : List (String × Nat) :=
  [("ignorecase", 1), ("multiline", 3), ("dotall", 4)]

/-- **The value stands at a key.** -/
def At (entries : List (Value × Value)) (key : String) (v : Value) : Prop :=
  (.str key.toList, v) ∈ entries

/-- **A truth value stands at the key, or nothing does.** -/
def Typed (entries : List (Value × Value)) (key : String) : Prop :=
  ∀ v, At entries key v → ∃ b, v = .bool b

/-- **A well-typed mapping**: each entry has a key of options and a truth value. -/
def WellTyped (entries : List (Value × Value)) : Prop :=
  ∀ k v, (k, v) ∈ entries → (∃ key ∈ keys, k = .str key.toList) ∧ ∃ b, v = .bool b

theorem isKnownKey_iff {k : Value} :
    isKnownKey k = true ↔ ∃ key ∈ keys, k = .str key.toList := by
  cases k with
  | str t =>
    simp only [isKnownKey, OptionsError.allowed, keys, List.contains_iff_mem, List.mem_cons,
      List.not_mem_nil, or_false, exists_eq_or_imp, exists_eq_left, Value.str.injEq]
    grind
  | _ => simp [isKnownKey]

/-- The unknown keys are those that are none of the four. -/
theorem mem_unknownKeys_iff {k : Value} :
    k ∈ unknownKeys entries ↔ (∃ v, (k, v) ∈ entries) ∧ ∀ key ∈ keys, k ≠ .str key.toList := by
  rw [unknownKeys, List.mem_filter, Bool.not_eq_true', ← Bool.not_eq_true, isKnownKey_iff]
  simp

/-- A mapping without unknown keys is well-typed if truth values stand at the four keys. -/
theorem wellTyped_iff :
    WellTyped entries ↔ unknownKeys entries = [] ∧ ∀ key ∈ keys, Typed entries key := by
  rw [List.eq_nil_iff_forall_not_mem]
  simp only [mem_unknownKeys_iff]
  constructor
  · intro h
    refine ⟨?_, fun key _ v hv => (h _ v hv).2⟩
    rintro k ⟨⟨v, hv⟩, hk⟩
    obtain ⟨key, hkey, rfl⟩ := (h k v hv).1
    exact hk key hkey rfl
  · rintro ⟨hknown, htyped⟩ k v hv
    have hk : ∃ key ∈ keys, k = .str key.toList := by
      by_contra hk
      exact hknown k ⟨⟨v, hv⟩, fun key hkey heq => hk ⟨key, hkey, heq⟩⟩
    obtain ⟨key, hkey, rfl⟩ := hk
    exact ⟨⟨key, hkey, rfl⟩, htyped key hkey v hv⟩

/-! ### Reports -/

/-- **The first value of the wrong type** stands at the key. -/
def FirstIllTyped (entries : List (Value × Value)) (key : String) (v : Value) : Prop :=
  ∃ before after, keys = before ++ key :: after ∧ (∀ k ∈ before, Typed entries k) ∧
    At entries key v ∧ ∀ b, v ≠ .bool b

/-- **What is reported of a mapping that is not well-typed.** -/
inductive Reports (place : Text) (entries : List (Value × Value)) : OptionsError → Prop
  /-- There are unknown keys. Each of them is listed by its text, in the order of the texts. -/
  | unknownKeys {texts : List Text} (some : unknownKeys entries ≠ [])
      (shown : ∀ k ∈ unknownKeys entries, k.isTooLong = false)
      (each : texts.Perm ((unknownKeys entries).map Value.plainText))
      (sorted : texts.Pairwise fun a b => Text.le a b = true) :
      Reports place entries (.unknownKeys place texts)
  /-- There are unknown keys, and one of them cannot be shown. -/
  | keyTooLong {k : Value} (unknown : k ∈ unknownKeys entries) (tooLong : k.isTooLong = true) :
      Reports place entries .tooLongToShow
  /-- All keys are known, and a value has the wrong type. -/
  | notBoolean {key : String} {v : Value} (known : unknownKeys entries = [])
      (first : FirstIllTyped entries key v) (shown : v.isTooLong = false) :
      Reports place entries (.notBoolean place key.toList v)
  /-- All keys are known, and a value has the wrong type and cannot be shown. -/
  | valueTooLong {key : String} {v : Value} (known : unknownKeys entries = [])
      (first : FirstIllTyped entries key v) (tooLong : v.isTooLong = true) :
      Reports place entries .tooLongToShow

theorem flagFault?_eq_none_iff (hkeys : Value.DistinctKeys entries) :
    flagFault? place entries key = none ↔ Typed entries key := by
  have hat (v : Value) : At entries key v ↔ Value.lookup key entries = some v :=
    (Value.lookup_eq_some_iff hkeys).symm
  simp only [Typed, hat, flagFault?]
  cases Value.lookup key entries with
  | none => simp
  | some v => cases v <;> simp

theorem flagFault?_eq_some_iff (hkeys : Value.DistinctKeys entries) :
    flagFault? place entries key = some e ↔ ∃ v, At entries key v ∧ (∀ b, v ≠ .bool b) ∧
      e = if v.isTooLong then .tooLongToShow else .notBoolean place key.toList v := by
  have hat (v : Value) : At entries key v ↔ Value.lookup key entries = some v :=
    (Value.lookup_eq_some_iff hkeys).symm
  simp only [hat, flagFault?]
  cases Value.lookup key entries with
  | none => simp
  | some v =>
    simp only [Option.some.injEq, exists_eq_left']
    cases v <;> simp [@eq_comm _ e]

/-- **The checks in their order, with the four values in a row.** -/
theorem error?_ofMapping_keys (place : Text) (entries : List (Value × Value)) :
    (ofMapping place entries).error? =
      (keysFault? place (unknownKeys entries)).or (keys.findSome? (flagFault? place entries)) := by
  have hcons (key : String) (rest : List String) :
      (key :: rest).findSome? (flagFault? place entries) =
        (flagFault? place entries key).or (rest.findSome? (flagFault? place entries)) := by
    rw [List.findSome?_cons]
    cases flagFault? place entries key <;> rfl
  rw [error?_ofMapping]
  simp only [keys, hcons, List.findSome?_nil, Option.or_none]

/-- The unknown keys are reported, if there are any. -/
theorem reports_of_keysFault? (h : keysFault? place (unknownKeys entries) = some e) :
    Reports place entries e := by
  rw [keysFault?] at h
  split at h
  · cases h
  next hsome =>
    split at h
    next hlong =>
      cases h
      obtain ⟨k, hk, htooLong⟩ := List.any_eq_true.mp hlong
      exact .keyTooLong hk htooLong
    next hshort =>
      cases h
      have hshown : ∀ k ∈ unknownKeys entries, k.isTooLong = false := by
        simpa using hshort
      obtain ⟨hperm, hsorted⟩ := Text.eq_mergeSort_iff.mp rfl
      exact .unknownKeys hsome hshown hperm hsorted

/-- Without unknown keys the first value of the wrong type is. -/
theorem reports_of_flagFault? (hkeys : Value.DistinctKeys entries)
    (hknown : unknownKeys entries = []) (h : keys.findSome? (flagFault? place entries) = some e) :
    Reports place entries e := by
  obtain ⟨before, key, after, hsplit, hfault, hbefore⟩ := List.findSome?_eq_some_iff.mp h
  obtain ⟨v, hv, hne, rfl⟩ := (flagFault?_eq_some_iff hkeys).mp hfault
  have hfirst : FirstIllTyped entries key v :=
    ⟨before, after, hsplit, fun k hk => (flagFault?_eq_none_iff hkeys).mp (hbefore k hk), hv, hne⟩
  split
  next htooLong => exact .valueTooLong hknown hfirst htooLong
  next hshown => exact .notBoolean hknown hfirst (Bool.eq_false_iff.mpr hshown)

theorem findSome?_of_first (hkeys : Value.DistinctKeys entries)
    (h : FirstIllTyped entries key v) :
    keys.findSome? (flagFault? place entries) =
      some (if v.isTooLong then .tooLongToShow else .notBoolean place key.toList v) := by
  obtain ⟨before, after, hsplit, hbefore, hv, hne⟩ := h
  exact List.findSome?_eq_some_iff.mpr ⟨before, key, after, hsplit,
    (flagFault?_eq_some_iff hkeys).mpr ⟨v, hv, hne, rfl⟩,
    fun k hk => (flagFault?_eq_none_iff hkeys).mpr (hbefore k hk)⟩

/-- **A mapping that gives no options is reported for one fault.** -/
theorem ofMapping_eq_error_iff (hkeys : Value.DistinctKeys entries) :
    ofMapping place entries = .error e ↔ Reports place entries e := by
  rw [← Except.error?_eq_some_iff, error?_ofMapping_keys]
  constructor
  · intro h
    cases hfault : keysFault? place (unknownKeys entries) with
    | some e' =>
      rw [hfault] at h
      cases h
      exact reports_of_keysFault? hfault
    | none =>
      rw [hfault, Option.none_or] at h
      have hknown : unknownKeys entries = [] := by
        by_contra hsome
        rw [keysFault?, if_neg hsome] at hfault
        split at hfault <;> cases hfault
      exact reports_of_flagFault? hkeys hknown h
  · intro h
    cases h with
    | unknownKeys hsome hshown hperm hsorted =>
      have hshort : (unknownKeys entries).any Value.isTooLong = false := by
        simpa using hshown
      rw [keysFault?, if_neg hsome, hshort, ← Text.eq_mergeSort_iff.mpr ⟨hperm, hsorted⟩]
      rfl
    | keyTooLong hk htooLong =>
      rw [keysFault?, if_neg (List.ne_nil_of_mem hk),
        if_pos (List.any_eq_true.mpr ⟨_, hk, htooLong⟩)]
      rfl
    | notBoolean hknown hfirst hshown =>
      rw [hknown, findSome?_of_first hkeys hfirst, hshown]
      rfl
    | valueTooLong hknown hfirst htooLong =>
      rw [hknown, findSome?_of_first hkeys hfirst, htooLong]
      rfl

/-! ### What is given -/

theorem exists_ofMapping_eq_ok_iff (hkeys : Value.DistinctKeys entries) :
    (∃ o, ofMapping place entries = .ok o) ↔ WellTyped entries := by
  have hnone : keys.findSome? (flagFault? place entries) = none ↔
      ∀ key ∈ keys, Typed entries key := by
    rw [List.findSome?_eq_none_iff]
    exact forall₂_congr fun key _ => flagFault?_eq_none_iff hkeys
  have hknown : keysFault? place (unknownKeys entries) = none ↔ unknownKeys entries = [] := by
    rw [keysFault?]
    split
    · simp [*]
    split <;> simp [*]
  rw [← Except.error?_eq_none_iff, error?_ofMapping_keys, Option.or_eq_none_iff, hknown, hnone,
    wellTyped_iff]

theorem FlagAt.eq_iff (hkeys : Value.DistinctKeys entries) {default b : Bool}
    (h : FlagAt entries key default b) :
    (∀ c, At entries key (.bool c) → b = c) ∧ ((∀ v, ¬At entries key v) → b = default) := by
  have hat (v : Value) : At entries key v ↔ Value.lookup key entries = some v :=
    (Value.lookup_eq_some_iff hkeys).symm
  rcases h with h | ⟨h, rfl⟩
  · refine ⟨fun c hc => ?_, fun hnone => absurd ((hat _).mpr h) (hnone _)⟩
    cases h.symm.trans ((hat _).mp hc)
    rfl
  · refine ⟨fun c hc => ?_, fun _ => rfl⟩
    cases h.symm.trans ((hat _).mp hc)

theorem FlagAt.eq_true_iff (hkeys : Value.DistinctKeys entries) {b : Bool}
    (h : FlagAt entries key false b) : b = true ↔ At entries key (.bool true) := by
  rw [At, ← Value.lookup_eq_some_iff hkeys]
  rcases h with h | ⟨h, rfl⟩ <;> simp [h]

/-- **A flag is on exactly if the truth value at its key is.** -/
theorem Says.testBit_flags (hkeys : Value.DistinctKeys entries) (h : Says entries o) (bit : Nat) :
    o.flags.testBit bit = true ↔ ∃ key, (key, bit) ∈ bits ∧ At entries key (.bool true) := by
  obtain ⟨-, ignoreCase, multiline, dotAll, hignoreCase, hmultiline, hdotAll, hflags⟩ := h
  rw [hflags, Overrides.testBit_flags]
  simp only [Bool.or_eq_true, Bool.and_eq_true, decide_eq_true_eq, hignoreCase.eq_true_iff hkeys,
    hmultiline.eq_true_iff hkeys, hdotAll.eq_true_iff hkeys, bits, List.mem_cons, Prod.mk.injEq,
    List.not_mem_nil, or_false]
  constructor
  · rintro ((⟨h, rfl⟩ | ⟨h, rfl⟩) | ⟨h, rfl⟩)
    · exact ⟨_, .inl ⟨rfl, rfl⟩, h⟩
    · exact ⟨_, .inr (.inl ⟨rfl, rfl⟩), h⟩
    · exact ⟨_, .inr (.inr ⟨rfl, rfl⟩), h⟩
  · rintro ⟨key, ⟨rfl, rfl⟩ | ⟨rfl, rfl⟩ | ⟨rfl, rfl⟩, h⟩
    · exact .inl (.inl ⟨h, rfl⟩)
    · exact .inl (.inr ⟨h, rfl⟩)
    · exact .inr ⟨h, rfl⟩

/-- **A mapping gives options exactly if it is well-typed.** All matches are replaced unless the
mapping says otherwise, and the flags are those whose truth values it turns on. A mapping that is
not well-typed is reported for its unknown keys, or else for the first value of the wrong type. The
order of the entries is nowhere seen. -/
theorem ofMapping_typed (place : Text) (hkeys : Value.DistinctKeys entries) :
    ((∃ o, ofMapping place entries = .ok o) ↔ WellTyped entries) ∧
    (∀ o, ofMapping place entries = .ok o →
      (∀ b, At entries "global" (.bool b) → o.all = b) ∧
      ((∀ v, ¬At entries "global" v) → o.all = true) ∧
      ∀ bit, o.flags.testBit bit = true ↔
        ∃ key, (key, bit) ∈ bits ∧ At entries key (.bool true)) ∧
    (∀ e, ofMapping place entries = .error e ↔ Reports place entries e) ∧
    ∀ others, entries.Perm others → ofMapping place others = ofMapping place entries := by
  refine ⟨exists_ofMapping_eq_ok_iff hkeys, fun o ho => ?_, fun e => ofMapping_eq_error_iff hkeys,
    fun others h => ofMapping_perm hkeys h⟩
  have hsays := (ofMapping_eq_ok_iff.mp ho).2
  obtain ⟨hgiven, habsent⟩ := hsays.all.eq_iff hkeys
  exact ⟨hgiven, habsent, fun bit => hsays.testBit_flags hkeys bit⟩

/-- Behind two unknown keys stands a value of the wrong type. Only the keys are reported, the text
before the number since it comes before it, and this is so in any order of the entries. A mapping
without such faults gives the flags that it turns on. -/
theorem ofMapping_typed_mixed :
    let entries : List (Value × Value) := [(.int 10, .bool true), (.str ['1'], .null),
      (.str "dotall".toList, .int 1)]
    let others : List (Value × Value) := [(.str "multiline".toList, .bool true),
      (.str "ignorecase".toList, .bool false)]
    ofMapping "rules[3]".toList entries =
      .error (.unknownKeys "rules[3]".toList ["1".toList, "10".toList]) ∧
    ofMapping "rules[3]".toList entries.reverse = ofMapping "rules[3]".toList entries ∧
    ∃ o, ofMapping "options".toList others = .ok o ∧ o.all = true ∧ o.flags.testBit 3 = true ∧
      o.flags.testBit 1 = false := by
  intro entries others
  have hkeys : Value.DistinctKeys entries := by
    rw [Value.DistinctKeys]
    decide
  have hothers : Value.DistinctKeys others := by
    rw [Value.DistinctKeys]
    decide
  obtain ⟨-, -, hreports, hperm⟩ := ofMapping_typed "rules[3]".toList hkeys
  obtain ⟨hgives, hsays, -, -⟩ := ofMapping_typed "options".toList hothers
  have htyped : WellTyped others := by
    intro k v h
    simp only [others, List.mem_cons, List.not_mem_nil, or_false, Prod.mk.injEq] at h
    rcases h with ⟨rfl, rfl⟩ | ⟨rfl, rfl⟩
    · exact ⟨⟨"multiline", by decide, rfl⟩, true, rfl⟩
    · exact ⟨⟨"ignorecase", by decide, rfl⟩, false, rfl⟩
  obtain ⟨o, ho⟩ := hgives.mpr htyped
  obtain ⟨-, habsent, hbits⟩ := hsays o ho
  refine ⟨(hreports _).mpr (.unknownKeys (by decide) (by decide) (by decide) (by decide)),
    hperm _ (List.reverse_perm entries).symm, o, ho, habsent ?_, (hbits 3).mpr ⟨"multiline", ?_⟩,
    Bool.eq_false_iff.mpr fun h => ?_⟩
  · simp [At, others]
  · simp [At, others, bits]
  · obtain ⟨key, hkey, hat⟩ := (hbits 1).mp h
    obtain rfl : key = "ignorecase" := by simpa [bits] using hkey
    simp [At, others] at hat

/-! ### Options files -/

/-- The keys of a mapping that is read are all different. -/
theorem distinctKeys_of_readSettings {files : Files} {path : Text}
    (h : readSettings 1 files path = .ok (.map entries)) : Value.DistinctKeys entries := by
  obtain ⟨text, -, h⟩ := Except.bind_eq_ok_iff.mp h
  split at h
  · next hread =>
    obtain rfl := Except.ok.inj h
    exact Yaml.keyed_of_read hread entries rfl
  · cases h
  · cases h

/-- **A file with a mapping gives options exactly if the mapping is well-typed**, and is reported
for the fault of the mapping otherwise. -/
theorem load_typed {files : Files} {path : Text}
    (h : readSettings 1 files path = .ok (.map entries)) :
    ((∃ o, load files path = .ok o) ↔ WellTyped entries) ∧
    ∀ e, load files path = .error e ↔
      ∃ fault, Reports "options".toList entries fault ∧ e = .options fault := by
  have hkeys := distinctKeys_of_readSettings h
  have hload : load files path = (ofMapping "options".toList entries).mapError .options := by
    rw [load, h]
    rfl
  rw [hload]
  refine ⟨?_, fun e => ?_⟩
  · simp only [Except.mapError_eq_ok_iff]
    exact exists_ofMapping_eq_ok_iff hkeys
  · rw [Except.mapError_eq_error_iff]
    exact exists_congr fun fault => and_congr (ofMapping_eq_error_iff hkeys) eq_comm

/-! ### What cannot be shown -/

theorem message_tooLongToShow_ne (place key : Text) (v : Value) (texts : List Text) :
    OptionsError.tooLongToShow.message ≠ (OptionsError.notBoolean place key v).message ∧
    OptionsError.tooLongToShow.message ≠ (OptionsError.unknownKeys place texts).message := by
  have hhead : OptionsError.tooLongToShow.message.head? = some 'E' := by
    decide +kernel
  constructor
  · intro h
    rw [h] at hhead
    cases hhead
  · intro h
    rw [h] at hhead
    cases hhead

/-- A value that cannot be shown is not reported, neither as a value nor as a key. -/
theorem ofMapping_of_isTooLong (h : v.isTooLong = true) (hbool : ∀ b, v ≠ .bool b)
    (hstr : ∀ t, v ≠ .str t) :
    ofMapping place [(.str "global".toList, v)] = .error .tooLongToShow ∧
    ofMapping place [(v, .bool true)] = .error .tooLongToShow := by
  have hkeys (k w : Value) : Value.DistinctKeys [(k, w)] := List.pairwise_singleton _ _
  constructor
  · have hfirst : FirstIllTyped [(.str "global".toList, v)] "global" v :=
      ⟨[], _, rfl, nofun, List.mem_singleton.mpr rfl, hbool⟩
    exact (ofMapping_eq_error_iff (hkeys _ _)).mpr (.valueTooLong rfl hfirst h)
  · have hunknown : v ∈ unknownKeys [(v, .bool true)] :=
      mem_unknownKeys_iff.mpr ⟨⟨_, List.mem_singleton.mpr rfl⟩, fun key _ => hstr _⟩
    exact (ofMapping_eq_error_iff (hkeys _ _)).mpr (.keyTooLong hunknown h)

/-- **An integer of 4302 digits is not reported**, neither as the value of the wrong type that it is
nor as the unknown key. -/
theorem ofMapping_tooLong :
    let huge : Value := .int (16 ^ 3572)
    (∀ b, huge ≠ .bool b) ∧ (∀ key ∈ keys, huge ≠ .str key.toList) ∧
    ∃ e : OptionsError, ofMapping "options".toList [(.str "global".toList, huge)] = .error e ∧
      ofMapping "options".toList [(huge, .bool true)] = .error e ∧
      e.message ≠ (OptionsError.notBoolean "options".toList "global".toList huge).message ∧
      ∀ texts, e.message ≠ (OptionsError.unknownKeys "options".toList texts).message := by
  intro huge
  have htooLong : huge.isTooLong = true := by decide +kernel
  obtain ⟨hvalue, hkey⟩ := ofMapping_of_isTooLong htooLong nofun nofun
  exact ⟨nofun, nofun, _, hvalue, hkey, (message_tooLongToShow_ne _ _ _ []).1,
    fun texts => (message_tooLongToShow_ne _ [] .null texts).2⟩

end Options

end Substitution
