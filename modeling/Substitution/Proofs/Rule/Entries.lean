import Mathlib.Data.List.Forall2
import Substitution.Proofs.Options
import Substitution.Proofs.Rule.Loaded
import Substitution.Proofs.Value.Equality
import Substitution.Proofs.Yaml.Keys

/-!
# Which entries give rules

A rules file gives its rules all together or not at all. An entry **gives** a rule if it is a
mapping that says all there is to say about the rule, and nothing else
(`Substitution.Rule.Gives`), and the file gives one rule for each entry if all of them do.

Otherwise the first entry that gives none is reported, and an entry may have many faults at once.
The checks of an entry can be made one by one, each for itself, on any value
(`Substitution.Rule.Check.fault?`), and they are **ranked**: what is reported is the fault that is
found by the first check, in the order of `Substitution.Rule.Check.ranked`, that finds one
(`Substitution.Rule.error?_ofValue`).

None of the checks looks at the order of the entries of a mapping, and an entry behind the first one
that gives no rule is never looked at. So neither of them matters for what is reported:
`Substitution.Rule.load_all_or_nothing`. Here entries are compared by what they hold. By an alias an
entry can hold another entry, or the list in which it stands, and then a report that shows this part
of it shows the order of the keys there, or what follows the entry
(`Substitution.Rule.reportOf_aliases`).
-/

namespace Substitution

namespace Rule

variable {entries others : List (Value × Value)} {index : Nat} {v w : Value} {r : Rule}

/-! ### The keys of an entry -/

/-- The keys that an entry may have: those that it must have, and those of options. -/
def entryKeys : List Text :=
  requiredKeys.map String.toList ++ OptionsError.allowed

/-- Is the value one of the keys that an entry may have? -/
def isEntryKey : Value → Bool
  | .str t => entryKeys.contains t
  | _ => false

/-- The keys that an entry has and may not have. -/
def foreignKeys (entries : List (Value × Value)) : List Value :=
  (entries.map Prod.fst).filter fun k => !isEntryKey k

/-- The keys that an entry must have and has not. -/
def missingKeys (entries : List (Value × Value)) : List Text :=
  (requiredKeys.filter fun key => (Value.lookup key entries).isNone).map String.toList

/-- What is left of an entry for its options. -/
def optionEntries (entries : List (Value × Value)) : List (Value × Value) :=
  Value.erase "replacement" (Value.erase "pattern" entries)

theorem isEntryKey_iff {k : Value} : isEntryKey k = true ↔ ∃ t ∈ entryKeys, k = .str t := by
  cases k <;> simp [isEntryKey]

theorem foreignKeys_eq_nil_iff :
    foreignKeys entries = [] ↔ ∀ k ∈ entries.map Prod.fst, ∃ t ∈ entryKeys, k = .str t := by
  simp only [foreignKeys, List.filter_eq_nil_iff, Bool.not_eq_true', Bool.not_eq_false,
    isEntryKey_iff]

/-- A key that is left and is none of options may not be there. -/
theorem unknownKeys_optionEntries (entries : List (Value × Value)) :
    Options.unknownKeys (optionEntries entries) = foreignKeys entries := by
  -- A key is taken away for being required, or else it is looked at as one of options.
  have hkey (k : Value) : (!isEntryKey k) = (!Options.isKnownKey k &&
      (!k.sameKey (.str "replacement".toList) && !k.sameKey (.str "pattern".toList))) := by
    cases k with
    | str t =>
      change (!("pattern".toList :: "replacement".toList :: OptionsError.allowed).contains t) =
        (!OptionsError.allowed.contains t &&
          (!(t == "replacement".toList) && !(t == "pattern".toList)))
      rw [List.contains_cons, List.contains_cons]
      cases t == "pattern".toList <;> cases t == "replacement".toList <;>
        cases OptionsError.allowed.contains t <;> rfl
    | _ => rfl
  simp only [Options.unknownKeys, optionEntries, Value.erase, foreignKeys, List.filter_map,
    List.filter_filter, hkey, Function.comp_def]

/-- What stands at the keys of options is left. -/
theorem lookup_optionEntries {key : String} (h : key.toList ∈ OptionsError.allowed)
    (entries : List (Value × Value)) :
    Value.lookup key (optionEntries entries) = Value.lookup key entries := by
  have hpattern : key.toList ≠ "pattern".toList := by
    intro heq
    rw [heq] at h
    exact absurd h (by decide)
  have hreplacement : key.toList ≠ "replacement".toList := by
    intro heq
    rw [heq] at h
    exact absurd h (by decide)
  rw [optionEntries, Value.lookup_erase hreplacement, Value.lookup_erase hpattern]

theorem says_optionEntries {o : Options} :
    Options.Says (optionEntries entries) o ↔ Options.Says entries o :=
  ⟨fun h => h.of_lookup fun _ hkey => (lookup_optionEntries hkey entries).symm,
    fun h => h.of_lookup fun _ hkey => lookup_optionEntries hkey entries⟩

/-! ### Entries that give rules -/

/-- **What an entry says of a rule**: it has the texts of the rule at the required keys, says its
options, and has no other keys; and the rule can be applied. -/
structure Describes (entries : List (Value × Value)) (r : Rule) : Prop extends r.Sound where
  pattern : Value.lookup "pattern" entries = some (.str r.pattern)
  replacement : Value.lookup "replacement" entries = some (.str r.replacement)
  keys : ∀ k ∈ entries.map Prod.fst, ∃ t ∈ entryKeys, k = .str t
  options : Options.Says entries r.options

/-- **The value gives the rule**: it is a mapping that says the rule. -/
def Gives (v : Value) (r : Rule) : Prop :=
  ∃ entries, v = .map entries ∧ Describes entries r

/-- **A valid entry**: one that gives a rule. -/
def Valid (v : Value) : Prop :=
  ∃ r, Gives v r

theorem textOf_eq_ok_iff {key : String} {t : Text} : textOf key v = .ok t ↔ v = .str t := by
  cases v <;> simp [textOf]

theorem Draft.ofEntries_eq_ok_iff {place : Text} {d : Draft} :
    Draft.ofEntries place entries = .ok d ↔
      Value.lookup "pattern" entries = some (.str d.pattern) ∧
      Value.lookup "replacement" entries = some (.str d.replacement) ∧
      (∀ k ∈ entries.map Prod.fst, ∃ t ∈ entryKeys, k = .str t) ∧
      Options.Says entries d.options := by
  constructor
  · intro h
    rw [Draft.ofEntries] at h
    split at h
    · next p q hp hq =>
      obtain ⟨pattern, hpattern, h⟩ := Except.bind_eq_ok_iff.mp h
      obtain ⟨replacement, hreplacement, h⟩ := Except.bind_eq_ok_iff.mp h
      obtain ⟨options, hoptions, h⟩ := Except.bind_eq_ok_iff.mp h
      obtain rfl := Except.ok.inj h
      have hoptions := Except.mapError_eq_ok_iff.mp hoptions
      obtain ⟨hkeys, hsays⟩ := Options.ofMapping_eq_ok_iff.mp hoptions
      rw [← optionEntries, unknownKeys_optionEntries, foreignKeys_eq_nil_iff] at hkeys
      rw [textOf_eq_ok_iff.mp hpattern] at hp
      rw [textOf_eq_ok_iff.mp hreplacement] at hq
      exact ⟨hp, hq, hkeys, says_optionEntries.mp hsays⟩
    · cases h
  · rintro ⟨hpattern, hreplacement, hkeys, hoptions⟩
    have hmapping : Options.ofMapping place (optionEntries entries) = .ok d.options := by
      rw [Options.ofMapping_eq_ok_iff, unknownKeys_optionEntries, foreignKeys_eq_nil_iff]
      exact ⟨hkeys, says_optionEntries.mpr hoptions⟩
    simp only [Draft.ofEntries, hpattern, hreplacement, textOf]
    refine Except.bind_eq_ok_iff.mpr ⟨_, rfl, Except.bind_eq_ok_iff.mpr ⟨_, rfl, ?_⟩⟩
    exact Except.bind_eq_ok_iff.mpr ⟨_, Except.mapError_eq_ok_iff.mpr hmapping, rfl⟩

/-- **The rule that an entry gives** does not depend on where the entry stands. -/
theorem ofValue_eq_ok_iff : ofValue index v = .ok r ↔ Gives v r := by
  refine (Except.mapError_eq_ok_iff.trans Except.bind_eq_ok_iff).trans ?_
  constructor
  · rintro ⟨d, hd, hr⟩
    obtain ⟨hpattern, hreplacement, hoptions, hsound⟩ := Draft.finish_eq_ok_iff.mp hr
    cases v with
    | map entries =>
      obtain ⟨hp, hq, hkeys, hsays⟩ := Draft.ofEntries_eq_ok_iff.mp hd
      exact ⟨entries, rfl, hsound, hpattern ▸ hp, hreplacement ▸ hq, hkeys, hoptions ▸ hsays⟩
    | _ => cases hd
  · rintro ⟨entries, rfl, hsound, hpattern, hreplacement, hkeys, hsays⟩
    let d : Draft := ⟨r.pattern, r.replacement, r.options⟩
    exact ⟨d, Draft.ofEntries_eq_ok_iff.mpr ⟨hpattern, hreplacement, hkeys, hsays⟩,
      Draft.finish_eq_ok_iff.mpr ⟨rfl, rfl, rfl, hsound⟩⟩

/-! ### The checks of an entry -/

/-- A check of an entry. -/
inductive Check where
  /-- Is it a mapping? -/
  | mapping
  /-- Are the keys there that it must have? -/
  | requiredKeys
  /-- Is there a text at the key? -/
  | text (key : String)
  /-- Are there no other keys than those that it may have? -/
  | keys
  /-- Is there a truth value at the key, or nothing? -/
  | flag (key : String)
  /-- Is the pattern one under the flags of the entry? -/
  | pattern
  /-- Is the replacement that of a template? -/
  | replacement

/-- The flag at a key, where no flag is one that is off. -/
def isOn (entries : List (Value × Value)) (key : String) : Bool :=
  match Value.lookup key entries with
  | some (.bool b) => b
  | _ => false

/-- The flags of an entry. -/
def flagsOf (entries : List (Value × Value)) : Flags :=
  Overrides.flags
    ⟨false, isOn entries "ignorecase", isOn entries "multiline", isOn entries "dotall"⟩

/-- The text at a key, if there is one. -/
def textAt (entries : List (Value × Value)) (key : String) : Option Text :=
  match Value.lookup key entries with
  | some (.str t) => some t
  | _ => none

namespace Check

/-- **The checks in the order of their ranks.** -/
def ranked : List Check :=
  [mapping, requiredKeys, text "pattern", text "replacement", keys, flag "global",
    flag "ignorecase", flag "multiline", flag "dotall", pattern, replacement]

/-- **The fault that a check finds in a mapping**, whatever the others find. A check that has
nothing to look at finds none. -/
def faultIn? (index : Nat) (entries : List (Value × Value)) : Check → Option EntryFault
  | mapping => none
  | requiredKeys =>
    if missingKeys entries = [] then none else some (.missingKeys (missingKeys entries))
  | text key => (Value.lookup key entries).bind fun v => (textOf key v).error?
  | keys => (Options.keysFault? (EntryError.place index) (foreignKeys entries)).map .options
  | flag key => (Options.flagFault? (EntryError.place index) entries key).map .options
  | pattern =>
    (textAt entries "pattern").bind fun t =>
      (Pattern.compile t (flagsOf entries)).error?.map .pattern
  | replacement =>
    (textAt entries "replacement").bind fun t =>
      (Template.compile t).error?.map .replacement

/-- **The fault that a check finds in a value.** Only a mapping passes the first one, and only
mappings have anything for the others to look at. -/
def fault? (index : Nat) (v : Value) (check : Check) : Option EntryFault :=
  match v, check with
  | .map entries, check => check.faultIn? index entries
  | v, mapping => some (.notMapping v.kindName)
  | _, _ => none

end Check

/-- **The fault of the highest rank** among those that the checks find. -/
def firstFault? (index : Nat) (v : Value) : Option EntryFault :=
  Check.ranked.findSome? (Check.fault? index v)

theorem flagsOf_eq {o : Options} (h : Options.Says entries o) : o.flags = flagsOf entries := by
  have hisOn {key : String} {b : Bool} (h : Options.FlagAt entries key false b) :
      isOn entries key = b := by
    rcases h with h | ⟨h, rfl⟩ <;> rw [isOn, h]
  obtain ⟨-, ignoreCase, multiline, dotAll, hignoreCase, hmultiline, hdotAll, hflags⟩ := h
  rw [hflags, flagsOf, hisOn hignoreCase, hisOn hmultiline, hisOn hdotAll]

/-- The options of an entry are checked by five checks in a row. -/
theorem error?_ofMapping_optionEntries (place : Text) (entries : List (Value × Value)) :
    (Options.ofMapping place (optionEntries entries)).error? =
      (Options.keysFault? place (foreignKeys entries)).or
        ((Options.flagFault? place entries "global").or
          ((Options.flagFault? place entries "ignorecase").or
            ((Options.flagFault? place entries "multiline").or
              (Options.flagFault? place entries "dotall")))) := by
  have hflag {key : String} (hkey : key.toList ∈ OptionsError.allowed) :
      Options.flagFault? place (optionEntries entries) key =
        Options.flagFault? place entries key := by
    rw [Options.flagFault?, Options.flagFault?, lookup_optionEntries hkey]
  rw [Options.error?_ofMapping, unknownKeys_optionEntries, hflag (by decide), hflag (by decide),
    hflag (by decide), hflag (by decide)]

theorem missingKeys_eq_nil {p q : Value} (hp : Value.lookup "pattern" entries = some p)
    (hq : Value.lookup "replacement" entries = some q) : missingKeys entries = [] := by
  simp [missingKeys, requiredKeys, hp, hq]

/-- A mapping whose keys are all there that it must have is checked further. -/
theorem Draft.error?_ofEntries_of_lookup {p q : Value} (place : Text)
    (hp : Value.lookup "pattern" entries = some p)
    (hq : Value.lookup "replacement" entries = some q) :
    (Draft.ofEntries place entries).error? =
      (textOf "pattern" p).error?.or ((textOf "replacement" q).error?.or
        ((Options.ofMapping place (optionEntries entries)).error?.map .options)) := by
  simp only [Draft.ofEntries, hp, hq]
  refine Except.error?_bind fun pattern _ => ?_
  refine Except.error?_bind fun replacement _ => ?_
  rw [← Except.error?_mapError, ← optionEntries]
  cases (Options.ofMapping place (optionEntries entries)).mapError EntryFault.options <;> rfl

/-- A draft is checked by its pattern and then by its replacement. -/
theorem Draft.error?_finish {place : Text} {d : Draft} (index : Nat)
    (h : Draft.ofEntries place entries = .ok d) :
    d.finish.error? =
      (Check.pattern.faultIn? index entries).or (Check.replacement.faultIn? index entries) := by
  obtain ⟨hp, hq, -, hsays⟩ := Draft.ofEntries_eq_ok_iff.mp h
  have hpattern : textAt entries "pattern" = some d.pattern := by rw [textAt, hp]
  have hreplacement : textAt entries "replacement" = some d.replacement := by rw [textAt, hq]
  simp only [Check.faultIn?, hpattern, hreplacement, Option.bind_some, ← flagsOf_eq hsays,
    ← Except.error?_mapError]
  refine Except.error?_bind fun _ _ => ?_
  rw [make]
  cases Template.compile d.replacement <;> rfl

/-- **A mapping that gives no rule is reported by its fault of the highest rank.** -/
theorem error?_ofEntries (index : Nat) (entries : List (Value × Value)) :
    ((Draft.ofEntries (EntryError.place index) entries).bind Draft.finish).error? =
      Check.ranked.findSome? (Check.faultIn? index entries) := by
  have hcons (check : Check) (rest : List Check) :
      (check :: rest).findSome? (Check.faultIn? index entries) =
        (check.faultIn? index entries).or (rest.findSome? (Check.faultIn? index entries)) := by
    rw [List.findSome?_cons]
    cases check.faultIn? index entries <;> rfl
  simp only [Check.ranked, hcons, List.findSome?_nil, Option.or_none]
  refine (Except.error?_bind fun d hd => Draft.error?_finish index hd).trans ?_
  -- Without one of the keys that it must have, nothing else of the mapping is looked at.
  cases hp : Value.lookup "pattern" entries with
  | none =>
    simp [Draft.ofEntries, hp, Check.faultIn?, missingKeys, requiredKeys, Except.error?]
  | some p =>
    cases hq : Value.lookup "replacement" entries with
    | none =>
      simp [Draft.ofEntries, hp, hq, Check.faultIn?, missingKeys, requiredKeys, Except.error?]
    | some q =>
      rw [Draft.error?_ofEntries_of_lookup _ hp hq, error?_ofMapping_optionEntries]
      simp only [Check.faultIn?, missingKeys_eq_nil hp hq, hp, hq, Option.bind_some, if_pos,
        Option.or_assoc, Option.map_or, Option.none_or]

/-- **An entry that gives no rule is reported by its fault of the highest rank.** -/
theorem error?_ofValue (index : Nat) (v : Value) :
    (ofValue index v).error? = (firstFault? index v).map (⟨index, ·⟩) := by
  refine Except.error?_mapError.trans (congrArg (Option.map _) ?_)
  cases v with
  | map entries => exact error?_ofEntries index entries
  | _ => rfl

theorem ofValue_eq_error_iff {e : EntryError} :
    ofValue index v = .error e ↔ firstFault? index v = some e.fault ∧ e.index = index := by
  rw [← Except.error?_eq_some_iff, error?_ofValue, Option.map_eq_some_iff]
  constructor
  · rintro ⟨fault, hfault, rfl⟩
    exact ⟨hfault, rfl⟩
  · rintro ⟨hfault, rfl⟩
    exact ⟨e.fault, hfault, rfl⟩

theorem not_valid_of_error {e : EntryError} (h : ofValue index v = .error e) : ¬Valid v := by
  rintro ⟨r, hr⟩
  rw [ofValue_eq_ok_iff.mpr hr] at h
  cases h

/-- **An entry is valid exactly if no check finds a fault in it.** -/
theorem valid_iff_forall_check (index : Nat) :
    Valid v ↔ ∀ check ∈ Check.ranked, check.fault? index v = none := by
  have hnone : (ofValue index v).error? = none ↔ firstFault? index v = none := by
    rw [error?_ofValue, Option.map_eq_none_iff]
  rw [← List.findSome?_eq_none_iff, ← firstFault?, ← hnone, Except.error?_eq_none_iff]
  exact exists_congr fun _ => ofValue_eq_ok_iff.symm

/-! ### Entries in a row -/

/-- **A list of entries gives the rules of a first part and those of the rest**, unless the first
part fails. -/
theorem ofValues_append (index : Nat) (front after : List Value) :
    ofValues index (front ++ after) = ofValues index front >>= fun rules =>
      ofValues (index + front.length) after >>= fun others => .ok (rules ++ others) := by
  induction front generalizing index with
  | nil =>
    change ofValues index after = ofValues index after >>= fun others => .ok others
    cases ofValues index after <;> rfl
  | cons v rest ih =>
    have hlength : index + 1 + rest.length = index + (v :: rest).length := by
      rw [List.length_cons, Nat.add_assoc, Nat.add_comm 1]
    rw [List.cons_append, ofValues, ih, ofValues, hlength]
    cases ofValue index v with
    | error e => rfl
    | ok r =>
      cases ofValues (index + 1) rest with
      | error e => rfl
      | ok rules => cases ofValues (index + (v :: rest).length) after <;> rfl

/-- **A list of entries gives rules exactly if each entry gives the rule at its place.** -/
theorem ofValues_eq_ok_iff {values : List Value} {rules : List Rule} :
    ofValues index values = .ok rules ↔ List.Forall₂ Gives values rules := by
  induction values generalizing index rules with
  | nil =>
    rw [ofValues, List.forall₂_nil_left_iff]
    exact ⟨fun h => (Except.ok.inj h).symm, fun h => congrArg _ h.symm⟩
  | cons v rest ih =>
    rw [ofValues, Except.bind_eq_ok_iff]
    constructor
    · rintro ⟨r, hr, h⟩
      obtain ⟨others, hothers, h⟩ := Except.bind_eq_ok_iff.mp h
      obtain rfl : r :: others = rules := Except.ok.inj h
      exact .cons (ofValue_eq_ok_iff.mp hr) (ih.mp hothers)
    · rintro (_ | ⟨hr, hothers⟩)
      exact ⟨_, ofValue_eq_ok_iff.mpr hr,
        Except.bind_eq_ok_iff.mpr ⟨_, ih.mpr hothers, rfl⟩⟩

theorem exists_ofValues_eq_ok_iff {values : List Value} :
    (∃ rules, ofValues index values = .ok rules) ↔ ∀ v ∈ values, Valid v := by
  simp only [ofValues_eq_ok_iff]
  induction values with
  | nil => simp
  | cons v rest ih =>
    rw [List.forall_mem_cons, ← ih]
    constructor
    · rintro ⟨_, _ | ⟨hr, hothers⟩⟩
      exact ⟨⟨_, hr⟩, _, hothers⟩
    · rintro ⟨⟨r, hr⟩, others, hothers⟩
      exact ⟨r :: others, .cons hr hothers⟩

/-- **The first entry that gives no rule is reported**, as it is when it stands alone at its place.
-/
theorem ofValues_eq_error_iff {values : List Value} {e : EntryError} :
    ofValues index values = .error e ↔
      ∃ before v after, values = before ++ v :: after ∧ (∀ u ∈ before, Valid u) ∧
        ofValue (index + before.length) v = .error e := by
  constructor
  · intro h
    induction values generalizing index with
    | nil => cases h
    | cons first rest ih =>
      rcases Except.bind_eq_error_iff.mp h with h | ⟨r, hr, h⟩
      · exact ⟨[], first, rest, rfl, nofun, h⟩
      rcases Except.bind_eq_error_iff.mp h with h | ⟨_, -, h⟩
      · obtain ⟨before, v, after, rfl, hbefore, hv⟩ := ih h
        have hfirst : Valid first := ⟨r, ofValue_eq_ok_iff.mp hr⟩
        refine ⟨first :: before, v, after, rfl, List.forall_mem_cons.mpr ⟨hfirst, hbefore⟩, ?_⟩
        rw [List.length_cons, Nat.add_comm before.length, ← Nat.add_assoc]
        exact hv
      · cases h
  · rintro ⟨before, v, after, rfl, hbefore, hv⟩
    obtain ⟨rules, hrules⟩ := exists_ofValues_eq_ok_iff.mpr hbefore
    rw [ofValues_append, hrules]
    refine Except.bind_eq_error_iff.mpr (.inr ⟨rules, rfl, Except.bind_eq_error_iff.mpr (.inl ?_)⟩)
    exact Except.bind_eq_error_iff.mpr (.inl hv)

theorem exists_ofValues_eq_error {values : List Value} (h : ∃ v ∈ values, ¬Valid v) (index : Nat) :
    ∃ e, ofValues index values = .error e := by
  cases hvalues : ofValues index values with
  | error e => exact ⟨e, rfl⟩
  | ok rules =>
    obtain ⟨v, hv, hinvalid⟩ := h
    exact absurd (exists_ofValues_eq_ok_iff.mp ⟨rules, hvalues⟩ v hv) hinvalid

/-- What is reported of the first entries is reported whatever follows them. -/
theorem ofValues_append_of_error {front : List Value} {e : EntryError}
    (h : ofValues index front = .error e) (after : List Value) :
    ofValues index (front ++ after) = .error e := by
  rw [ofValues_append, h]
  rfl

/-! ### The order of the keys -/

/-- **The second value is the first one**, or the same mapping with its keys in another order. -/
inductive Reordered : Value → Value → Prop
  | refl (v : Value) : Reordered v v
  | map {entries others : List (Value × Value)} (h : entries.Perm others) :
    Reordered (.map entries) (.map others)

/-- **The order of the keys of an entry is nowhere seen.** -/
theorem Draft.ofEntries_perm (hkeys : Value.DistinctKeys entries) (h : entries.Perm others)
    (place : Text) : Draft.ofEntries place others = Draft.ofEntries place entries := by
  have hmapping : Options.ofMapping place (optionEntries others) =
      Options.ofMapping place (optionEntries entries) :=
    Options.ofMapping_perm ((hkeys.erase _).erase _) ((h.filter _).filter _)
  rw [optionEntries, optionEntries] at hmapping
  simp only [Draft.ofEntries, Value.lookup_perm hkeys h, hmapping]

theorem Reordered.ofValue (h : Reordered v w) (hkeys : v.Keyed) (index : Nat) :
    ofValue index w = ofValue index v := by
  cases h with
  | refl => rfl
  | @map entries others h =>
    have hdraft : Draft.ofValue (EntryError.place index) (.map others) =
        Draft.ofValue (EntryError.place index) (.map entries) :=
      Draft.ofEntries_perm (hkeys _ rfl) h _
    rw [Rule.ofValue, Rule.ofValue, hdraft]

theorem ofValues_reordered {values others : List Value} (h : List.Forall₂ Reordered values others)
    (hkeys : ∀ v ∈ values, v.Keyed) (index : Nat) :
    ofValues index others = ofValues index values := by
  induction h generalizing index with
  | nil => rfl
  | cons hv _ ih =>
    obtain ⟨hfirst, hrest⟩ := List.forall_mem_cons.mp hkeys
    rw [Rule.ofValues, Rule.ofValues, hv.ofValue hfirst, ih hrest]

/-! ### Rules files -/

/-- The entries of a list that is read have different keys. -/
theorem keyed_of_readSettings {files : Files} {path : Text} {values : List Value}
    (h : readSettings 2 files path = .ok (.list values)) : ∀ v ∈ values, v.Keyed := by
  obtain ⟨text, -, h⟩ := Except.bind_eq_ok_iff.mp h
  split at h
  · next hread =>
    obtain rfl := Except.ok.inj h
    exact Yaml.keyed_items_of_read hread
  · cases h
  · cases h

/-- A file that holds a list is loaded entry by entry. -/
theorem load_eq_of_readSettings {files : Files} {path : Text} {values : List Value}
    (h : readSettings 2 files path = .ok (.list values)) :
    load files path = (ofValues 0 values).mapError .entry := by
  rw [load, readEntries, h]
  rfl

/-- **A rules file is loaded as a whole, or its first entry that gives no rule is reported.**

A file that holds a list gives rules exactly if all entries are valid, that is, if no check finds a
fault in any of them, and then each entry gives the rule at its place. Otherwise what is reported is
the first entry that is not valid, as if it stood alone at its place, with its fault of the highest
rank. What the file gives, or what is reported of it, does not depend on the order of the keys of
any entry, nor on what follows an entry that is not valid. -/
theorem load_all_or_nothing {files : Files} {path : Text} {values : List Value}
    (h : readSettings 2 files path = .ok (.list values)) :
    (∀ rules, load files path = .ok rules ↔ List.Forall₂ Gives values rules) ∧
    ((∃ rules, load files path = .ok rules) ↔ ∀ v ∈ values, Valid v) ∧
    (∀ v ∈ values, ∀ index, Valid v ↔ ∀ check ∈ Check.ranked, check.fault? index v = none) ∧
    (∀ e, load files path = .error e ↔
      ∃ before v after fault, values = before ++ v :: after ∧ (∀ u ∈ before, Valid u) ∧ ¬Valid v ∧
        ofValue before.length v = .error ⟨before.length, fault⟩ ∧
        firstFault? before.length v = some fault ∧ e = .entry ⟨before.length, fault⟩) ∧
    ∀ files' path' others, readSettings 2 files' path' = .ok (.list others) →
      (List.Forall₂ Reordered values others → load files' path' = load files path) ∧
      ∀ front after front' after', values = front ++ after → others = front' ++ after' →
        List.Forall₂ Reordered front front' → (∃ v ∈ front, ¬Valid v) →
        load files' path' = load files path := by
  have hload := load_eq_of_readSettings h
  have hkeyed := keyed_of_readSettings h
  refine ⟨fun rules => ?_, ?_, fun v _ index => valid_iff_forall_check index, fun e => ?_,
    fun files' path' others h' => ⟨fun hvalues => ?_, ?_⟩⟩
  · rw [hload, Except.mapError_eq_ok_iff, ofValues_eq_ok_iff]
  · simp only [hload, Except.mapError_eq_ok_iff, exists_ofValues_eq_ok_iff]
  · rw [hload, Except.mapError_eq_error_iff]
    simp only [ofValues_eq_error_iff, Nat.zero_add]
    constructor
    · rintro ⟨⟨place, fault⟩, ⟨before, v, after, rfl, hbefore, hv⟩, rfl⟩
      obtain ⟨hfault, rfl⟩ := ofValue_eq_error_iff.mp hv
      exact ⟨before, v, after, fault, rfl, hbefore, not_valid_of_error hv, hv, hfault, rfl⟩
    · rintro ⟨before, v, after, fault, rfl, hbefore, -, hv, -, rfl⟩
      exact ⟨_, ⟨before, v, after, rfl, hbefore, hv⟩, rfl⟩
  · rw [hload, load_eq_of_readSettings h', ofValues_reordered hvalues hkeyed]
  · rintro front after front' after' rfl rfl hfront hinvalid
    -- Both files are reported for their first parts, and these are reported alike.
    obtain ⟨e, he⟩ := exists_ofValues_eq_error hinvalid 0
    have hsame := ofValues_reordered hfront (fun v hv => hkeyed v (List.mem_append_left _ hv)) 0
    rw [hload, load_eq_of_readSettings h', ofValues_append_of_error he,
      ofValues_append_of_error (hsame.trans he)]

/-- Behind an entry that gives a rule stands one with three faults. What is reported is that
`dotall` is no truth value, and this is still so with the keys in another order and nothing behind
it. -/
theorem load_all_or_nothing_ranked :
    ∃ files files' path values others,
      readSettings 2 files path = .ok (.list values) ∧
      readSettings 2 files' path = .ok (.list others) ∧
      (∃ v ∈ values, ¬Valid v) ∧ others.length < values.length ∧
      load files path = .error (.entry ⟨1, .options
        (.notBoolean "rules[1]".toList "dotall".toList (.int 1))⟩) ∧
      load files' path = load files path := by
  let entry (key text : String) : Value × Value := (.str key.toList, .str text.toList)
  let pattern := entry "pattern"
  let replacement := entry "replacement"
  let dotAll : Value × Value := (.str "dotall".toList, .int 1)
  have hread : readSettings 2 (.ofEntries [("r".toList, .bytes
      ("- \x7bpattern: a, replacement: b\x7d\n" ++
        "- \x7bdotall: 1, replacement: $0, pattern: (\x7d\n- 5\n").toUTF8.toList)]) "r".toList =
      .ok (.list [.map [pattern "a", replacement "b"],
        .map [dotAll, replacement "$0", pattern "("], .int 5]) := by decide +kernel
  have hread' : readSettings 2 (.ofEntries [("r".toList, .bytes
      ("- \x7breplacement: b, pattern: a\x7d\n" ++
        "- \x7bpattern: (, dotall: 1, replacement: $0\x7d\n").toUTF8.toList)]) "r".toList =
      .ok (.list [.map [replacement "b", pattern "a"],
        .map [pattern "(", dotAll, replacement "$0"]]) := by decide +kernel
  have hfirst : ofValue 0 (.map [pattern "a", replacement "b"]) =
      .ok ⟨"a".toList, "b".toList, {}, ⟨[.literal "b".toList]⟩⟩ := by decide +kernel
  have hsecond : ofValue 1 (.map [dotAll, replacement "$0", pattern "("]) =
      .error ⟨1, .options (.notBoolean "rules[1]".toList "dotall".toList (.int 1))⟩ := by
    decide +kernel
  obtain ⟨-, -, -, herror, hother⟩ := load_all_or_nothing hread
  have hinvalid := not_valid_of_error hsecond
  refine ⟨_, _, _, _, _, hread, hread', ⟨_, .tail _ (.head _), hinvalid⟩, by decide, ?_, ?_⟩
  · have hvalid : ∀ v ∈ [Value.map [pattern "a", replacement "b"]], Valid v :=
      List.forall_mem_singleton.mpr ⟨_, ofValue_eq_ok_iff.mp hfirst⟩
    exact (herror _).mpr ⟨[_], _, [_], _, rfl, hvalid, hinvalid, hsecond,
      (ofValue_eq_error_iff.mp hsecond).1, rfl⟩
  · refine (hother _ _ _ hread').2 [_, _] [_] [_, _] [] rfl rfl ?_ ⟨_, .tail _ (.head _), hinvalid⟩
    exact .cons (.map (.swap ..)) (.cons (.map (by decide)) .nil)

/-- What is reported of a rules file with the text, if it gives no rules. -/
def reportOf (text : String) : Option Text :=
  (load (.ofEntries [("r".toList, .bytes text.toUTF8.toList)]) "r".toList).error?.map
    SettingsError.message

/-- **A report shows what an entry holds, with all that is reached through aliases.** So the order
of the keys of an entry is seen where another entry holds it, and what follows an entry is seen
where the entry holds the list in which it stands: the two documents of either pair differ in
nothing else. -/
theorem reportOf_aliases :
    (reportOf ("- &a \x7bpattern: a, replacement: b\x7d\n" ++
        "- \x7bpattern: a, replacement: b, dotall: *a\x7d\n") =
      some ("'rules[1].dotall' must be true or false, " ++
        "got \x7b'pattern': 'a', 'replacement': 'b'\x7d").toList ∧
    reportOf ("- &a \x7breplacement: b, pattern: a\x7d\n" ++
        "- \x7bpattern: a, replacement: b, dotall: *a\x7d\n") =
      some ("'rules[1].dotall' must be true or false, " ++
        "got \x7b'replacement': 'b', 'pattern': 'a'\x7d").toList) ∧
    reportOf "&a\n- \x7bpattern: a, replacement: b, dotall: *a\x7d\n" =
      some ("'rules[0].dotall' must be true or false, " ++
        "got [\x7b'pattern': 'a', 'replacement': 'b', 'dotall': [...]\x7d]").toList ∧
    reportOf "&a\n- \x7bpattern: a, replacement: b, dotall: *a\x7d\n- c\n" =
      some ("'rules[0].dotall' must be true or false, " ++
        "got [\x7b'pattern': 'a', 'replacement': 'b', 'dotall': [...]\x7d, 'c']").toList := by
  decide +kernel

end Rule

end Substitution
