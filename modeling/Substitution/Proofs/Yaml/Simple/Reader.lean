import Substitution.Proofs.Yaml.Simple.Layout
import Substitution.Yaml.Reader

/-!
# The nodes of a simple document

No type is given to a node of a simple document: a scalar has the type of a text or the one that its
text has by its spelling, and a collection has the usual one (`Substitution.Yaml.Node.Simple`).

Nothing but tokens decides what is read, and passing over some of them leaves simple ones. So this
goes through the readers in their own order (`Substitution.Yaml.Read.Keeps`). The readers call each
other, always with a smaller bound on their steps, and are gone through together
(`Substitution.Yaml.Read.keepsAll`).
-/

namespace Substitution

namespace Yaml

open Except (Meets)

/-- **A node of a simple document.** -/
inductive Node.Simple : Node → Prop
  | scalar {anchor : Option Text} {tag : Tag} {text : Text} :
      tag = .str ∨ tag = Tag.ofPlain text ∧ PlainText text →
      Simple (.scalar anchor tag text)
  | sequence {anchor : Option Text} {items : List Node} :
      (∀ n ∈ items, Simple n) → Simple (.sequence anchor .seq items)
  | mapping {anchor : Option Text} {entries : List (Node × Node)} :
      (∀ entry ∈ entries, Simple entry.1) → (∀ entry ∈ entries, Simple entry.2) →
      Simple (.mapping anchor .map entries)
  | aliasOf (name : Text) : Simple (.aliasOf name)

theorem Node.simple_empty : Node.empty.Simple :=
  .scalar (.inr ⟨rfl, plainText_nil⟩)

/-- A scalar without a type of its own. -/
theorem Node.simple_scalarTag {plain : Bool} {text : Text} (h : (Token.scalar plain text).Simple)
    (anchor : Option Text) : (Node.scalar anchor (Read.scalarTag none plain text) text).Simple := by
  cases plain with
  | false => exact .scalar (.inl rfl)
  | true => exact .scalar (.inr ⟨rfl, h⟩)

namespace Read

variable {α β : Type}

/-- **A reader keeps to simple tokens**, fails with a fault of simple documents only, and what it
gives has a property. -/
def Keeps (P : α → Prop) (m : Read α) : Prop :=
  ∀ r : Reading, (∀ token ∈ r.tokens, token.Simple) →
    Meets (fun p => P p.1 ∧ ∀ token ∈ p.2.tokens, token.Simple) Error.Simple (m r)

theorem Keeps.bind {P : α → Prop} {Q : β → Prop} {m : Read α} {f : α → Read β} (hm : Keeps P m)
    (hf : ∀ a, P a → Keeps Q (f a)) : Keeps Q (m >>= f) :=
  fun r hr => (hm r hr).bind fun p hp => hf p.1 hp.1 p.2 hp.2

theorem keeps_pure {P : α → Prop} {a : α} (h : P a) : Keeps P (pure a) :=
  fun _ hr => .ok ⟨h, hr⟩

theorem keeps_throw {P : α → Prop} {e : Error} (he : e.Simple) : Keeps P (throw e) :=
  fun _ _ => .error he

theorem Keeps.ite {P : α → Prop} {c : Prop} [Decidable c] {m m' : Read α} (hm : c → Keeps P m)
    (hm' : ¬c → Keeps P m') : Keeps P (if c then m else m') := by
  split
  · next h => exact hm h
  · next h => exact hm' h

theorem keeps_get : Keeps (fun _ => True) (get : Read Reading) :=
  fun _ hr => .ok ⟨trivial, hr⟩

theorem keeps_modify {f : Reading → Reading} (hf : ∀ r, (f r).tokens = r.tokens) :
    Keeps (fun _ => True) (modify f : Read Unit) :=
  fun r hr => .ok ⟨trivial, fun token htoken => hr token (hf r ▸ htoken)⟩

/-! ### Single tokens -/

theorem keeps_peek : Keeps Token.Simple peek := by
  rintro ⟨tokens, handles, anchors⟩ hr
  cases tokens with
  | nil => exact .ok ⟨trivial, hr⟩
  | cons token rest => exact .ok ⟨hr token List.mem_cons_self, hr⟩

theorem keeps_skip : Keeps (fun _ => True) skip :=
  fun _ hr => .ok ⟨trivial, fun token htoken => hr token (List.mem_of_mem_drop htoken)⟩

theorem keeps_nextIs (tokens : List Token) : Keeps (fun _ => True) (nextIs tokens) :=
  keeps_peek.bind fun _ _ => keeps_pure trivial

theorem keeps_refuse {P : α → Prop} : Keeps P (refuse : Read α) := by
  refine keeps_peek.bind fun token htoken => ?_
  cases token with
  | fault e => exact keeps_throw htoken
  | _ => exact keeps_throw trivial

theorem keeps_expect (token : Token) : Keeps (fun _ => True) (expect token) :=
  keeps_peek.bind fun _ _ => .ite (fun _ => keeps_skip) fun _ => keeps_refuse

/-- Between brackets there is a comma before every part but the first. -/
theorem Keeps.afterComma {P : α → Prop} {first : Bool} {m : Read α} (hm : Keeps P m) :
    Keeps P (do
      if !first then expect .comma
      m) :=
  .ite (fun _ => (keeps_expect _).bind fun _ _ => hm) fun _ => hm

/-! ### Properties -/

theorem keeps_anchor? : Keeps (fun _ => True) anchor? := by
  refine keeps_peek.bind fun token _ => ?_
  cases token with
  | anchor name => exact keeps_skip.bind fun _ _ => keeps_pure trivial
  | _ => exact keeps_pure trivial

/-- There is no tag. -/
theorem keeps_tag? : Keeps (· = none) tag? := by
  refine keeps_peek.bind fun token htoken => ?_
  cases token with
  | tag handle suffix => exact htoken.elim
  | _ => exact keeps_pure rfl

/-- So no node has a type of its own. -/
theorem keeps_properties : Keeps (fun p => p.2 = none) properties := by
  refine keeps_anchor?.bind fun early _ => ?_
  refine keeps_tag?.bind fun tag htag => ?_
  subst htag
  exact .ite (fun _ => keeps_anchor?.bind fun _ _ _ hr => .ok ⟨rfl, hr⟩) fun _ _ hr => .ok ⟨rfl, hr⟩

theorem keeps_note (anchor : Option Text) : Keeps (fun _ => True) (note anchor) := by
  cases anchor with
  | none => exact keeps_pure trivial
  | some name =>
    exact keeps_get.bind fun r _ => .ite (fun _ => keeps_throw trivial) fun _ =>
      keeps_modify fun _ => rfl

theorem keeps_known (name : Text) : Keeps Node.Simple (known name) :=
  keeps_get.bind fun _ _ => .ite (fun _ => keeps_pure (.aliasOf name)) fun _ => keeps_throw trivial

/-! ### Nodes -/

/-- What holds of the readers of nodes, with a bound on their steps. -/
structure KeepsAll (limit : Nat) : Prop where
  node : ∀ place, Keeps Node.Simple (node place limit)
  nodeUnless : ∀ stops place, Keeps Node.Simple (nodeUnless stops place limit)
  valueUnless : ∀ stops place, Keeps Node.Simple (valueUnless stops place limit)
  blockItems : Keeps (fun items => ∀ n ∈ items, n.Simple) (blockItems limit)
  looseItems : Keeps (fun items => ∀ n ∈ items, n.Simple) (looseItems limit)
  flowItems : ∀ first, Keeps (fun items => ∀ n ∈ items, n.Simple) (flowItems first limit)
  blockEntries :
    Keeps (fun entries => ∀ entry ∈ entries, entry.1.Simple ∧ entry.2.Simple) (blockEntries limit)
  flowEntries : ∀ first,
    Keeps (fun entries => ∀ entry ∈ entries, entry.1.Simple ∧ entry.2.Simple)
      (flowEntries first limit)

theorem keepsAll_zero : KeepsAll 0 where
  node _ := keeps_throw trivial
  nodeUnless _ _ := keeps_throw trivial
  valueUnless _ _ := keeps_throw trivial
  blockItems := keeps_throw trivial
  looseItems := keeps_throw trivial
  flowItems _ := keeps_throw trivial
  blockEntries := keeps_throw trivial
  flowEntries _ := keeps_throw trivial

variable {limit : Nat}

theorem KeepsAll.node_succ (h : KeepsAll limit) (place : Place) :
    Keeps Node.Simple (Read.node place (limit + 1)) := by
  rw [Read.node]
  have hsequence (anchor : Option Text) {m : Read (List Node)}
      (hm : Keeps (fun items => ∀ n ∈ items, n.Simple) m) :
      Keeps Node.Simple (do
        note anchor
        return .sequence anchor (collectionTag none .seq) (← m)) :=
    (keeps_note anchor).bind fun _ _ => hm.bind fun _ hitems => keeps_pure (.sequence hitems)
  have hmapping (anchor : Option Text) {m : Read (List (Node × Node))}
      (hm : Keeps (fun entries => ∀ entry ∈ entries, entry.1.Simple ∧ entry.2.Simple) m) :
      Keeps Node.Simple (do
        note anchor
        return .mapping anchor (collectionTag none .map) (← m)) :=
    (keeps_note anchor).bind fun _ _ => hm.bind fun _ hentries =>
      keeps_pure (.mapping (fun e he => (hentries e he).1) fun e he => (hentries e he).2)
  refine keeps_peek.bind fun token _ => ?_
  split
  next => exact keeps_skip.bind fun _ _ => keeps_known _
  next =>
    refine keeps_properties.bind fun p hp => ?_
    obtain ⟨anchor, tag⟩ := p
    obtain rfl : tag = none := hp
    refine keeps_peek.bind fun token htoken => ?_
    split
    next => exact hsequence anchor h.looseItems
    next plain text =>
      exact keeps_skip.bind fun _ _ => (keeps_note anchor).bind fun _ _ =>
        keeps_pure (Node.simple_scalarTag htoken anchor)
    next => exact keeps_skip.bind fun _ _ => hsequence anchor (h.flowItems true)
    next => exact keeps_skip.bind fun _ _ => hmapping anchor (h.flowEntries true)
    next => exact keeps_skip.bind fun _ _ => hsequence anchor h.blockItems
    next => exact keeps_skip.bind fun _ _ => hsequence anchor h.blockItems
    next => exact keeps_skip.bind fun _ _ => hmapping anchor h.blockEntries
    next => exact keeps_skip.bind fun _ _ => hmapping anchor h.blockEntries
    next =>
      refine .ite (fun _ => keeps_refuse) fun _ => (keeps_note anchor).bind fun _ _ => ?_
      exact keeps_pure (.scalar (.inr ⟨rfl, plainText_nil⟩))

theorem KeepsAll.nodeUnless_succ (h : KeepsAll limit) (stops : List Token) (place : Place) :
    Keeps Node.Simple (Read.nodeUnless stops place (limit + 1)) := by
  rw [Read.nodeUnless]
  exact (keeps_nextIs stops).bind fun _ _ =>
    .ite (fun _ => keeps_pure Node.simple_empty) fun _ => h.node place

theorem KeepsAll.valueUnless_succ (h : KeepsAll limit) (stops : List Token) (place : Place) :
    Keeps Node.Simple (Read.valueUnless stops place (limit + 1)) := by
  rw [Read.valueUnless]
  exact (keeps_nextIs _).bind fun _ _ =>
    .ite (fun _ => keeps_skip.bind fun _ _ => h.nodeUnless stops place) fun _ =>
      keeps_pure Node.simple_empty

theorem KeepsAll.blockItems_succ (h : KeepsAll limit) :
    Keeps (fun items => ∀ n ∈ items, n.Simple) (Read.blockItems (limit + 1)) := by
  rw [Read.blockItems]
  refine (keeps_nextIs _).bind fun _ _ => .ite (fun _ => ?_) fun _ => ?_
  · exact keeps_skip.bind fun _ _ => (h.nodeUnless _ _).bind fun n hn =>
      h.blockItems.bind fun items hitems => keeps_pure (List.forall_mem_cons.mpr ⟨hn, hitems⟩)
  · exact (keeps_expect _).bind fun _ _ => keeps_pure nofun

theorem KeepsAll.looseItems_succ (h : KeepsAll limit) :
    Keeps (fun items => ∀ n ∈ items, n.Simple) (Read.looseItems (limit + 1)) := by
  rw [Read.looseItems]
  refine (keeps_nextIs _).bind fun _ _ => .ite (fun _ => ?_) fun _ => keeps_pure nofun
  exact keeps_skip.bind fun _ _ => (h.nodeUnless _ _).bind fun n hn =>
    h.looseItems.bind fun items hitems => keeps_pure (List.forall_mem_cons.mpr ⟨hn, hitems⟩)

/-- A key and its value, and the entries after them. -/
theorem Keeps.entry {stops stops' : List Token} {place : Place} (h : KeepsAll limit)
    {m : Read (List (Node × Node))}
    (hm : Keeps (fun entries => ∀ entry ∈ entries, entry.1.Simple ∧ entry.2.Simple) m) :
    Keeps (fun entries => ∀ entry ∈ entries, entry.1.Simple ∧ entry.2.Simple) (do
      skip
      let key ← Read.nodeUnless stops place limit
      let value ← Read.valueUnless stops' place limit
      return (key, value) :: (← m)) :=
  keeps_skip.bind fun _ _ => (h.nodeUnless _ _).bind fun _ hkey =>
    (h.valueUnless _ _).bind fun _ hvalue => hm.bind fun _ hentries =>
      keeps_pure (List.forall_mem_cons.mpr ⟨⟨hkey, hvalue⟩, hentries⟩)

theorem KeepsAll.blockEntries_succ (h : KeepsAll limit) :
    Keeps (fun entries => ∀ entry ∈ entries, entry.1.Simple ∧ entry.2.Simple)
      (Read.blockEntries (limit + 1)) := by
  rw [Read.blockEntries]
  refine (keeps_nextIs _).bind fun _ _ => .ite (fun _ => .entry h h.blockEntries) fun _ => ?_
  exact (keeps_expect _).bind fun _ _ => keeps_pure nofun

theorem KeepsAll.flowItems_succ (h : KeepsAll limit) (first : Bool) :
    Keeps (fun items => ∀ n ∈ items, n.Simple) (Read.flowItems first (limit + 1)) := by
  rw [Read.flowItems]
  refine (keeps_nextIs _).bind fun _ _ => .ite (fun _ => ?_) fun _ => ?_
  · exact keeps_skip.bind fun _ _ => keeps_pure nofun
  refine .afterComma ((keeps_nextIs _).bind fun _ _ => .ite (fun _ => ?_) fun _ => ?_)
  · exact keeps_skip.bind fun _ _ => (h.nodeUnless _ _).bind fun key hkey =>
      (h.valueUnless _ _).bind fun value hvalue => (h.flowItems false).bind fun _ hitems =>
        keeps_pure (List.forall_mem_cons.mpr ⟨.mapping (List.forall_mem_singleton.mpr hkey)
          (List.forall_mem_singleton.mpr hvalue), hitems⟩)
  refine (keeps_nextIs _).bind fun _ _ => .ite (fun _ => ?_) fun _ => ?_
  · exact keeps_skip.bind fun _ _ => keeps_pure nofun
  · exact (h.node _).bind fun n hn => (h.flowItems false).bind fun _ hitems =>
      keeps_pure (List.forall_mem_cons.mpr ⟨hn, hitems⟩)

theorem KeepsAll.flowEntries_succ (h : KeepsAll limit) (first : Bool) :
    Keeps (fun entries => ∀ entry ∈ entries, entry.1.Simple ∧ entry.2.Simple)
      (Read.flowEntries first (limit + 1)) := by
  rw [Read.flowEntries]
  refine (keeps_nextIs _).bind fun _ _ => .ite (fun _ => ?_) fun _ => ?_
  · exact keeps_skip.bind fun _ _ => keeps_pure nofun
  refine .afterComma ((keeps_nextIs _).bind fun _ _ =>
    .ite (fun _ => .entry h (h.flowEntries false)) fun _ => ?_)
  refine (keeps_nextIs _).bind fun _ _ => .ite (fun _ => ?_) fun _ => ?_
  · exact keeps_skip.bind fun _ _ => keeps_pure nofun
  · exact (h.node _).bind fun n hn => (h.flowEntries false).bind fun _ hentries =>
      keeps_pure (List.forall_mem_cons.mpr ⟨⟨hn, Node.simple_empty⟩, hentries⟩)

theorem keepsAll (limit : Nat) : KeepsAll limit := by
  induction limit with
  | zero => exact keepsAll_zero
  | succ limit ih =>
    exact ⟨ih.node_succ, ih.nodeUnless_succ, ih.valueUnless_succ, ih.blockItems_succ,
      ih.looseItems_succ, ih.flowItems_succ, ih.blockEntries_succ, ih.flowEntries_succ⟩

/-! ### Documents -/

theorem keeps_directives (limit : Nat) (versioned : Bool) (handles : List (Text × Text)) :
    Keeps (fun _ => True) (directives limit versioned handles) := by
  induction limit generalizing versioned handles with
  | zero => exact keeps_throw trivial
  | succ limit ih =>
    rw [directives]
    refine keeps_peek.bind fun token _ => ?_
    split
    next d =>
      refine keeps_skip.bind fun _ _ => ?_
      split
      next => exact .ite (fun _ => keeps_throw trivial) fun _ => ih true handles
      next => exact .ite (fun _ => keeps_throw trivial) fun _ => ih versioned _
      next => exact ih versioned handles
    next => exact keeps_modify fun _ => rfl

theorem keeps_documentEnds (limit : Nat) : Keeps (fun _ => True) (documentEnds limit) := by
  induction limit with
  | zero => exact keeps_throw trivial
  | succ limit ih =>
    rw [documentEnds]
    exact (keeps_nextIs _).bind fun _ _ =>
      .ite (fun _ => keeps_skip.bind fun _ _ => ih) fun _ => keeps_pure trivial

theorem keeps_content (limit : Nat) : Keeps Node.Simple (content limit) := by
  refine keeps_peek.bind fun token _ => ?_
  split
  all_goals first | exact keeps_pure Node.simple_empty | exact (keepsAll limit).node .block

/-- Behind a document nothing but its end may follow. -/
theorem keeps_end {root : Node} (hroot : root.Simple) (limit : Nat)
    {rest : Token → Read (Option Node)} (hrest : ∀ token, rest token = pure (some root) ∨
      rest token = (do directives limit false []; refuse)) :
    Keeps (fun document => ∀ root, document = some root → root.Simple)
      (do documentEnds limit; rest (← peek)) := by
  refine (keeps_documentEnds limit).bind fun _ _ => keeps_peek.bind fun token _ => ?_
  rcases hrest token with h | h
  · rw [h]
    exact keeps_pure fun _ heq => Option.some.inj heq ▸ hroot
  · rw [h]
    exact (keeps_directives _ _ _).bind fun _ _ => keeps_refuse

theorem keeps_document (limit : Nat) :
    Keeps (fun document => ∀ root, document = some root → root.Simple) (document limit) := by
  rw [document]
  refine keeps_peek.bind fun token _ => ?_
  dsimp only
  split
  next => exact keeps_pure nofun
  -- Its node is read behind directives or at once, and the end is the same.
  all_goals
    first
    | refine (keeps_directives _ _ _).bind fun _ _ => (keeps_expect _).bind fun _ _ =>
        (keeps_content limit).bind fun root hroot => keeps_end hroot limit fun token => ?_
    | refine ((keepsAll limit).node .block).bind fun root hroot =>
        keeps_end hroot limit fun token => ?_
    split
    · exact .inl rfl
    · exact .inr rfl

end Read

/-- **The nodes of a simple document** are simple. -/
theorem meets_document? {t : Text} (h : Simple t) :
    Meets (fun document => ∀ root, document = some root → root.Simple) Error.Simple
      (document? (tokens t)) :=
  (Read.keeps_document _ ⟨tokens t, Read.defaultHandles, []⟩ (simple_of_mem_tokens h)).map
    fun _ hp => hp.1

end Yaml

end Substitution
