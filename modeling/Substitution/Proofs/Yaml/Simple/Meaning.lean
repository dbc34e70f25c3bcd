import Substitution.Proofs.Yaml.Simple.Numeral
import Substitution.Proofs.Yaml.Simple.Reader
import Substitution.Yaml.Meaning

/-!
# The value of a simple document

A simple document has a value, or a fault of simple documents
(`Substitution.Yaml.simple_of_read_eq_error`). The scalars of such a document have the types that
their texts have the form of, so what is read fits its type, up to numbers that are too long and
days that do not exist: a truth value is one of the words for it, a number has a digit, a date or
time has its numerals. Collections add no fault of their own but those of the format.
-/

namespace Substitution

namespace Yaml

open Except (Meets)

/-! ### Scalars -/

section Scalar

variable {t : Text}

theorem truth_truthWords : ∀ word ∈ Tag.truthWords, (truth word.toList).isOk = true := by
  decide +kernel

theorem meets_truth {word : String} (h : word ∈ Tag.truthWords) :
    Meets (fun _ => True) ScalarFault.Simple (truth word.toList) := by
  have hok := truth_truthWords word h
  cases htruth : truth word.toList with
  | error e =>
    rw [htruth] at hok
    cases hok
  | ok b => exact .ok trivial

theorem meets_timestamp (h : Timestamp.isForm (Tag.dropLastBreak t) = true) :
    Meets (fun _ => True) ScalarFault.Simple (timestamp t) := by
  rw [Timestamp.isForm] at h
  rw [timestamp]
  split
  next hread =>
    rw [hread] at h
    cases h
  next ts _ => exact (Meets.any ts.value).mapError fun _ _ => trivial

/-- The fault of a scalar is one of its document. -/
theorem meets_ofScalar {α : Type} {x : Except ScalarFault α} (f : α → Value)
    (h : Meets (fun _ => True) ScalarFault.Simple x) :
    Meets (fun _ => True) Error.Simple ((x.map f).mapError .scalar) :=
  (h.map fun _ _ => trivial).mapError fun _ he => he

theorem PlainText.dropLastBreak_eq (ht : PlainText t) : Tag.dropLastBreak t = t :=
  if_neg ht.last

/-- The type by its spelling is one that the text fits. -/
theorem meets_ofSpelling (ht : PlainText t) :
    Meets (fun _ => True) Error.Simple (scalarValue (Tag.ofSpelling t) t) := by
  rw [Tag.ofSpelling]
  split
  next hword =>
    obtain ⟨word, hmem, heq⟩ := List.any_eq_true.mp hword
    obtain rfl := beq_iff_eq.mp heq
    exact meets_ofScalar .bool (meets_truth hmem)
  split
  next hdecimal =>
    have hpoint := List.mem_filter_of_mem (p := (· != '_')) (point_mem_of_isDecimal hdecimal) rfl
    exact meets_ofScalar .float (meets_decimal (List.ne_nil_of_mem hpoint) ht.colons)
  split
  next hinteger =>
    obtain ⟨d, rest, hdrop, hd⟩ := exists_digit_of_isInteger hinteger
    exact meets_ofScalar .int (meets_integer (dropSign_filter_ne_nil hdrop hd))
  split
  next => exact .error trivial
  split
  next => exact .ok trivial
  split
  next hform =>
    exact (meets_timestamp (ht.dropLastBreak_eq.symm ▸ hform)).mapError fun _ he => he
  split
  next => exact .error trivial
  next => exact .ok trivial

/-- **A scalar of a simple document has a value**, or a fault of simple documents. -/
theorem meets_scalarValue {tag : Tag}
    (h : tag = .str ∨ tag = Tag.ofPlain t ∧ PlainText t) :
    Meets (fun _ => True) Error.Simple (scalarValue tag t) := by
  rcases h with rfl | ⟨rfl, ht⟩
  · exact .ok trivial
  · have hne : t ≠ ['\n'] := fun heq => ht.last (heq ▸ rfl)
    rw [Tag.ofPlain, if_neg hne, ht.dropLastBreak_eq]
    exact meets_ofSpelling ht

end Scalar

/-! ### Parts of a document -/

/-- **Something built from a part of a simple document.** -/
def Built.Simple {α : Type} (b : Built α) : Prop :=
  Meets (fun _ => True) (fun f => f.error.Simple) b

namespace Built

variable {α β : Type} {a : Built α} {b : Built β}

theorem simple_malformed (depth : Nat) : (malformed depth : Built α).Simple :=
  .error trivial

theorem Simple.mapped (h : a.Simple) (f : α → β) : Simple (a.map f) :=
  h.map fun _ _ => trivial

theorem Simple.both (ha : a.Simple) (hb : b.Simple) : (both a b).Simple := by
  rw [Built.both.eq_def]
  split
  next => exact .ok trivial
  next f => exact .error (hb.2 f rfl)
  next e _ => exact .error (ha.2 e rfl)
  next e f =>
    refine .error ?_
    split
    · exact hb.2 f rfl
    · exact ha.2 e rfl

theorem simple_all {parts : List (Built α)} (h : ∀ part ∈ parts, part.Simple) :
    (all parts).Simple := by
  induction parts with
  | nil => exact .ok trivial
  | cons part rest ih =>
    obtain ⟨hpart, hrest⟩ := List.forall_mem_cons.mp h
    exact (hpart.both (ih hrest)).mapped _

theorem simple_foldr_append {parts : List (Built (List α))} {b : Built (List α)}
    (h : ∀ part ∈ parts, part.Simple) (hb : b.Simple) : (parts.foldr append b).Simple := by
  induction parts with
  | nil => exact hb
  | cons part rest ih =>
    obtain ⟨hpart, hrest⟩ := List.forall_mem_cons.mp h
    exact (hpart.both (ih hrest)).mapped _

/-- What a row of parts gives, if all of them do, is what each of them gives. -/
theorem forall_mem_of_mapM {P : β → Prop} {f : α → Option β} {l : List α} {parts : List β}
    (h : l.mapM f = some parts) (hf : ∀ x ∈ l, ∀ part ∈ f x, P part) : ∀ part ∈ parts, P part := by
  induction l generalizing parts with
  | nil =>
    cases h
    exact nofun
  | cons x rest ih =>
    obtain ⟨hx, hrest⟩ := List.forall_mem_cons.mp hf
    rw [List.mapM_cons] at h
    obtain ⟨part, hpart, h⟩ := Option.bind_eq_some_iff.mp h
    obtain ⟨others, hothers, h⟩ := Option.bind_eq_some_iff.mp h
    cases h
    exact List.forall_mem_cons.mpr ⟨hx part hpart, ih hothers hrest⟩

end Built

/-! ### Meanings -/

namespace Meaning

/-- **What is meant by a part of a simple document.** -/
structure Simple (m : Meaning) : Prop where
  value : ∀ path depth, (m.value path depth).Simple
  entries : ∀ merges merging path depth,
    ∀ built ∈ m.entries merges merging path depth, built.Simple
  given : ∀ merging path depth, ∀ built ∈ m.given merging path depth, built.Simple
  pair : ∀ path depth, (m.pair path depth).Simple

variable {m : Meaning}

theorem Simple.key (h : m.Simple) (path : List Text) (depth : Nat) : (m.key path depth).Simple := by
  refine Meets.bind (P := fun _ => True) ?_ fun k _ => .ite (fun _ => .ok trivial)
    fun _ => Built.simple_malformed depth
  split
  · split
    · exact .ok trivial
    · exact Built.simple_malformed depth
  · exact h.value path depth

theorem simple_ofScalar {tag : Tag} {t : Text}
    (h : tag = .unknown ∨ tag = .str ∨ tag = Tag.ofPlain t ∧ PlainText t) :
    (ofScalar tag t).Simple where
  value path depth := by
    have hscalar : Meets (fun _ => True) Error.Simple (scalarValue tag t) := by
      rcases h with rfl | h
      · exact .error trivial
      · exact meets_scalarValue h
    have hbuilt : Built.Simple ((scalarValue tag t).mapError (DeepFault.mk depth)) :=
      hscalar.mapError fun _ he => he
    cases tag <;> first | exact hbuilt | exact Built.simple_malformed (depth + 1)
  entries _ _ _ _ := nofun
  given _ _ _ := nofun
  pair _ depth := Built.simple_malformed depth

theorem simple_ofSequence (free : Nat) (anchor : Option Text) {items : List Meaning}
    (h : ∀ m ∈ items, m.Simple) : (ofSequence free anchor .seq items).Simple where
  value path depth := by
    refine (Built.simple_all fun part hpart => ?_).mapped _
    obtain ⟨m, hm, rfl⟩ := List.mem_map.mp hpart
    exact (h m hm).value _ _
  entries _ _ _ _ := nofun
  given merging path depth built hbuilt := by
    obtain ⟨parts, hparts, rfl⟩ := Option.map_eq_some_iff.mp hbuilt
    refine Built.simple_foldr_append (Built.forall_mem_of_mapM hparts fun m hm part hpart => ?_)
      (.ok trivial)
    exact (h m (List.mem_reverse.mp hm)).entries _ _ _ _ part hpart
  pair _ depth := Built.simple_malformed depth

theorem simple_allEntries (merges : Bool) {merging : List Text} {parts : List (Meaning × Meaning)}
    (hk : ∀ part ∈ parts, part.1.Simple) (hv : ∀ part ∈ parts, part.2.Simple) (path : List Text)
    (depth : Nat) : ∀ built ∈ allEntries merges merging parts path depth, built.Simple := by
  intro built hbuilt
  have hown : (Built.all ((parts.filter fun part => !part.1.tag == .merge).map fun part =>
      Built.both (part.1.key path depth) (part.2.value path depth))).Simple := by
    refine Built.simple_all fun b hb => ?_
    obtain ⟨part, hpart, rfl⟩ := List.mem_map.mp hb
    have hpart := List.mem_of_mem_filter hpart
    exact ((hk part hpart).key path depth).both ((hv part hpart).value path depth)
  cases merges with
  | false =>
    cases hbuilt
    exact hown
  | true =>
    obtain ⟨others, hothers, hbuilt⟩ := Option.bind_eq_some_iff.mp hbuilt
    cases hbuilt
    refine Built.simple_foldr_append (Built.forall_mem_of_mapM hothers fun part hpart b hb => ?_)
      hown
    exact (hv part (List.mem_of_mem_filter hpart)).given _ _ _ b hb

theorem simple_ofMapping (free : Nat) (anchor : Option Text) {parts : List (Meaning × Meaning)}
    (hk : ∀ part ∈ parts, part.1.Simple) (hv : ∀ part ∈ parts, part.2.Simple) :
    (ofMapping free anchor .map parts).Simple where
  value path depth := by
    dsimp only [ofMapping]
    split
    next => exact Built.simple_malformed (depth + 1)
    next built hbuilt => exact (simple_allEntries true hk hv _ _ built hbuilt).mapped _
  entries merges _ path depth := simple_allEntries merges hk hv path depth
  given _ path depth := simple_allEntries true hk hv path depth
  pair path depth := by
    dsimp only [ofMapping]
    split
    next k v =>
      have hpair : (k, v) ∈ [(k, v)] := List.mem_cons_self
      exact (((hk _ hpair).value path depth).both ((hv _ hpair).value path depth)).mapped _
    next => exact Built.simple_malformed depth

theorem simple_ofAlias (anchored : List (Text × Node)) (name : Text) {referent : Text → Meaning}
    (h : ∀ name, (referent name).Simple) : (ofAlias anchored name referent).Simple where
  value path depth := by
    dsimp only [ofAlias]
    split
    next => split <;> exact .ok trivial
    next => exact (h name).value path depth
  entries _ merging := (h name).entries _ merging
  given merging path depth := by
    dsimp only [ofAlias]
    split
    next => exact (h name).entries false merging path depth
    next => exact (h name).given merging path depth
  pair := (h name).pair

end Meaning

/-! ### Documents -/

section Node

variable (free : Nat) (anchored : List (Text × Node)) {referent : Text → Meaning}

mutual

/-- **A simple node has a simple meaning**, if what aliases stand for has one. -/
theorem simple_meaning (h : ∀ name, (referent name).Simple) :
    (n : Node) → n.Simple → (n.meaning free anchored referent).Simple
  | .scalar _ _ _, .scalar htag => Meaning.simple_ofScalar (.inr htag)
  | .sequence anchor _ items, .sequence hitems =>
    Meaning.simple_ofSequence free anchor (simple_meanings h items hitems)
  | .mapping anchor _ entries, .mapping hk hv =>
    have hentries := simple_entryMeanings h entries hk hv
    Meaning.simple_ofMapping free anchor (fun part hpart => (hentries part hpart).1)
      fun part hpart => (hentries part hpart).2
  | .aliasOf name, _ => Meaning.simple_ofAlias anchored name h

theorem simple_meanings (h : ∀ name, (referent name).Simple) :
    (items : List Node) → (∀ n ∈ items, n.Simple) →
      ∀ m ∈ Node.meaning.meanings free anchored referent items, m.Simple
  | [], _ => nofun
  | n :: rest, hitems =>
    List.forall_mem_cons.mpr ⟨simple_meaning h n (hitems n List.mem_cons_self),
      simple_meanings h rest fun m hm => hitems m (List.mem_cons_of_mem n hm)⟩

theorem simple_entryMeanings (h : ∀ name, (referent name).Simple) :
    (entries : List (Node × Node)) → (∀ entry ∈ entries, entry.1.Simple) →
      (∀ entry ∈ entries, entry.2.Simple) →
      ∀ part ∈ Node.meaning.entryMeanings free anchored referent entries,
        part.1.Simple ∧ part.2.Simple
  | [], _, _ => nofun
  | (k, v) :: rest, hk, hv =>
    List.forall_mem_cons.mpr ⟨⟨simple_meaning h k (hk _ List.mem_cons_self),
        simple_meaning h v (hv _ List.mem_cons_self)⟩,
      simple_entryMeanings h rest (fun entry he => hk entry (List.mem_cons_of_mem _ he))
        fun entry he => hv entry (List.mem_cons_of_mem _ he)⟩

end

mutual

/-- **The nodes with an anchor in a simple node are simple.** -/
theorem Node.simple_anchored :
    (n : Node) → n.Simple → ∀ entry ∈ n.anchored, entry.2.Simple
  | .scalar anchor tag text, h => by
    intro entry hentry
    obtain ⟨name, -, rfl⟩ := Option.map_eq_some_iff.mp (Option.mem_toList.mp hentry)
    exact h
  | .sequence anchor tag items, h => by
    intro entry hentry
    rcases List.mem_append.mp hentry with hown | hinner
    · obtain ⟨name, -, rfl⟩ := Option.map_eq_some_iff.mp (Option.mem_toList.mp hown)
      exact h
    · cases h with
      | sequence hitems => exact Node.simple_anchoredItems items hitems entry hinner
  | .mapping anchor tag entries, h => by
    intro entry hentry
    rcases List.mem_append.mp hentry with hown | hinner
    · obtain ⟨name, -, rfl⟩ := Option.map_eq_some_iff.mp (Option.mem_toList.mp hown)
      exact h
    · cases h with
      | mapping hk hv => exact Node.simple_anchoredEntries entries hk hv entry hinner
  | .aliasOf _, _ => nofun

theorem Node.simple_anchoredItems :
    (items : List Node) → (∀ n ∈ items, n.Simple) →
      ∀ entry ∈ Node.anchored.anchoredItems items, entry.2.Simple
  | [], _ => nofun
  | n :: rest, hitems => fun entry hentry =>
    (List.mem_append.mp hentry).elim
      (Node.simple_anchored n (hitems n List.mem_cons_self) entry)
      (Node.simple_anchoredItems rest (fun m hm => hitems m (List.mem_cons_of_mem n hm)) entry)

theorem Node.simple_anchoredEntries :
    (entries : List (Node × Node)) → (∀ entry ∈ entries, entry.1.Simple) →
      (∀ entry ∈ entries, entry.2.Simple) →
      ∀ entry ∈ Node.anchored.anchoredEntries entries, entry.2.Simple
  | [], _, _ => nofun
  | (k, v) :: rest, hk, hv => fun entry hentry => by
    rcases List.mem_append.mp hentry with hpair | hentry
    · rcases List.mem_append.mp hpair with hkey | hvalue
      · exact Node.simple_anchored k (hk _ List.mem_cons_self) entry hkey
      · exact Node.simple_anchored v (hv _ List.mem_cons_self) entry hvalue
    · exact Node.simple_anchoredEntries rest (fun e he => hk e (List.mem_cons_of_mem _ he))
        (fun e he => hv e (List.mem_cons_of_mem _ he)) entry hentry

end

variable {anchored}

/-- What aliases stand for is simple, however many of them are followed. -/
theorem simple_referent (h : ∀ entry ∈ anchored, entry.2.Simple) (limit : Nat) (name : Text) :
    (Yaml.referent free anchored limit name).Simple := by
  induction limit generalizing name with
  | zero => exact Meaning.simple_ofScalar (.inl rfl)
  | succ limit ih =>
    rw [Yaml.referent]
    split
    next => exact Meaning.simple_ofScalar (.inl rfl)
    next node hnode =>
      obtain ⟨before, after, hmem, -⟩ := List.lookup_eq_some_iff.mp hnode
      have hmem : (name, node) ∈ anchored := hmem ▸ List.mem_append_right _ List.mem_cons_self
      exact simple_meaning free anchored ih node (h _ hmem)

end Node

/-- **A simple document can fail to be read in few ways.** -/
theorem simple_of_read_eq_error {free : Nat} {t : Text} {e : Error} (h : read free t = .error e)
    (ht : Simple t) : e.Simple := by
  have hread : Meets (fun _ => True) Error.Simple (read free t) := by
    refine (meets_document? ht).bind fun document hdocument => ?_
    cases document with
    | none => exact .ok trivial
    | some root =>
      have hroot := hdocument root rfl
      have hreferent := simple_referent free (Node.simple_anchored root hroot)
      exact ((simple_meaning free root.anchored (hreferent _) root hroot).value [] 0).mapError
        fun _ hf => hf
  exact hread.2 e h

end Yaml

end Substitution
