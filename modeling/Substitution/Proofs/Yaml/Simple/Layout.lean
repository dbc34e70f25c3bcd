import Substitution.Proofs.Yaml.Simple.Scalar
import Substitution.Yaml.Layout

/-!
# The tokens of a simple document

Among the tokens of a simple document there is no tag, no plain scalar with a line feed at its end
or with too many colons, and no other fault than those of simple documents
(`Substitution.Yaml.simple_of_mem_tokens`).

A step of the reading adds tokens to those it has and moves others from one layer into another, so
it is enough that all that have been read are such tokens, whatever layer they are in
(`Substitution.Yaml.Layout.Simple`), and that what follows is still simple. One step keeps this or
fails with a fault of simple documents (`Substitution.Yaml.Layout.Simple.meets_next`).
-/

namespace Substitution

namespace Yaml

open Except (Meets)

/-- **A token of a simple document.** -/
def Token.Simple : Token → Prop
  | tag .. => False
  | fault e => e.Simple
  | scalar true t => PlainText t
  | _ => True

namespace Layout

/-- All tokens that have been read are those of a simple document. -/
def AllSimple (settled : List Token) (layers : List Layer) : Prop :=
  (∀ token ∈ settled, token.Simple) ∧ ∀ layer ∈ layers, ∀ token ∈ layer.tokens, token.Simple

/-- **A simple document read up to some place.** -/
structure Simple (l : Layout) : Prop where
  cursor : l.cursor.Simple
  tokens : AllSimple l.settled l.layers

theorem simple_start {t : Text} (h : Yaml.Simple t) : (start t).Simple :=
  ⟨h, nofun, nofun⟩

variable {l : Layout} {token : Token}

/-! ### Layers -/

theorem AllSimple.addTokens {tokens settled : List Token} {layers : List Layer}
    (htokens : ∀ token ∈ tokens, token.Simple) (h : AllSimple settled layers) :
    AllSimple (addTokens tokens settled layers).1 (addTokens tokens settled layers).2 := by
  cases layers with
  | nil => exact ⟨List.forall_mem_append.mpr ⟨htokens, h.1⟩, nofun⟩
  | cons layer rest =>
    obtain ⟨hlayer, hrest⟩ := List.forall_mem_cons.mp h.2
    exact ⟨h.1, List.forall_mem_cons.mpr ⟨List.forall_mem_append.mpr ⟨htokens, hlayer⟩, hrest⟩⟩

theorem AllSimple.mergeStale {settled : List Token} {layers : List Layer} (c : Cursor)
    (h : AllSimple settled layers) :
    AllSimple (mergeStale c settled layers).1 (mergeStale c settled layers).2 := by
  induction layers with
  | nil => exact h
  | cons layer rest ih =>
    obtain ⟨hlayer, hrest⟩ := List.forall_mem_cons.mp h.2
    have hmerged := ih ⟨h.1, hrest⟩
    rw [Layout.mergeStale]
    dsimp only
    split
    · exact hmerged.addTokens hlayer
    · exact ⟨hmerged.1, List.forall_mem_cons.mpr ⟨hlayer, hmerged.2⟩⟩

theorem Simple.push (h : l.Simple) (token : Token) (htoken : token.Simple) :
    (l.push token).Simple :=
  ⟨h.cursor, h.tokens.addTokens (List.forall_mem_singleton.mpr htoken)⟩

theorem Simple.goTo (h : l.Simple) {c : Cursor} (hc : c.Simple) (keyAllowed : Bool) :
    (l.goTo c keyAllowed).Simple :=
  ⟨hc, h.tokens⟩

theorem Simple.meets_dropStale (h : l.Simple) : Meets Simple Error.Simple l.dropStale := by
  rw [dropStale]
  split
  · exact .error trivial
  · exact .ok ⟨h.cursor, h.tokens.mergeStale _⟩

theorem Simple.of_ownLayer? (h : l.Simple) {layer : Layer} {rest : List Layer}
    (hown : l.ownLayer? = some (layer, rest)) :
    (∀ token ∈ layer.tokens, token.Simple) ∧ AllSimple l.settled rest := by
  rw [ownLayer?] at hown
  split at hown
  next first others hlayers =>
    split at hown
    next =>
      obtain ⟨rfl, rfl⟩ := Prod.mk.inj (Option.some.inj hown)
      obtain ⟨hfirst, hothers⟩ := List.forall_mem_cons.mp (hlayers ▸ h.tokens.2)
      exact ⟨hfirst, h.tokens.1, hothers⟩
    next => cases hown
  next => cases hown

theorem Simple.meets_dropKey (h : l.Simple) : Meets Simple Error.Simple l.dropKey := by
  rw [dropKey]
  split
  next => exact .ok h
  next layer rest hown =>
    obtain ⟨hlayer, hrest⟩ := h.of_ownLayer? hown
    split
    · exact .error trivial
    · exact .ok ⟨h.cursor, hrest.addTokens hlayer⟩

theorem Simple.meets_markKey (h : l.Simple) : Meets Simple Error.Simple l.markKey := by
  rw [markKey]
  split
  · exact h.meets_dropKey.bind fun l hl =>
      .ok ⟨hl.cursor, hl.tokens.1, List.forall_mem_cons.mpr ⟨nofun, hl.tokens.2⟩⟩
  · exact .ok h

/-! ### Blocks -/

theorem Simple.closeBlocks (h : l.Simple) (isClosed : Nat → Bool) :
    (l.closeBlocks isClosed).Simple := by
  have hfold (closed : List Nat) {l : Layout} (h : l.Simple) :
      (closed.foldl (fun l _ => l.push .blockEnd) l).Simple := by
    induction closed generalizing l with
    | nil => exact h
    | cons _ closed ih => exact ih (h.push .blockEnd trivial)
  rw [Layout.closeBlocks]
  split
  · exact h
  · exact hfold _ ⟨h.cursor, h.tokens⟩

theorem Simple.openBlock (h : l.Simple) (token : Token) (htoken : token.Simple) :
    (l.openBlock token).Simple := by
  rw [Layout.openBlock]
  split
  · exact ⟨h.cursor, (h.push token htoken).tokens⟩
  · exact h

/-! ### The next token -/

theorem simple_skipToToken {c : Cursor} (h : c.Simple) (limit : Nat) :
    (skipToToken limit c).1.Simple := by
  induction limit generalizing c with
  | zero => exact h
  | succ limit ih =>
    rw [skipToToken]
    split
    next b c' hbreak => exact ih (h.skipSpaces.skipComment.of_lineBreak? hbreak)
    next => exact h.skipSpaces.skipComment

theorem Simple.advance (h : l.Simple) : l.advance.Simple := by
  obtain ⟨c, hc, hstart⟩ : ∃ c, (if l.cursor.index = 0 ∧ l.cursor.peek = some (Char.ofNat 0xFEFF)
      then l.cursor.next else l.cursor) = c ∧ c.Simple := by
    refine ⟨_, rfl, ?_⟩
    split
    · exact h.cursor.next
    · exact h.cursor
  have hgo (r : Cursor × Bool) (hr : r.1.Simple) :
      (l.goTo r.1 (l.keyAllowed || (r.2 && !l.inFlow))).Simple := h.goTo hr _
  rw [Layout.advance, hc]
  exact hgo (skipToToken (c.rest.length + 1) c) (simple_skipToToken hstart _)

variable {t : Text}

theorem Simple.meets_finish (h : l.Simple) : Meets Simple Error.Simple l.finish := by
  have hfold {settled : List Token} {layers : List Layer} (h : AllSimple settled layers) :
      ∀ token ∈ layers.foldr (fun layer settled => layer.tokens ++ settled) settled,
        token.Simple := by
    induction layers with
    | nil => exact h.1
    | cons layer rest ih =>
      obtain ⟨hlayer, hrest⟩ := List.forall_mem_cons.mp h.2
      exact List.forall_mem_append.mpr ⟨hlayer, ih ⟨h.1, hrest⟩⟩
  exact (h.closeBlocks _).meets_dropKey.bind fun l hl =>
    .ok ⟨hl.cursor, List.forall_mem_cons.mpr ⟨trivial, hfold hl.tokens⟩, nofun⟩

theorem Simple.meets_directive (h : l.Simple) : Meets Simple Error.Simple l.directive :=
  (h.closeBlocks _).meets_dropKey.bind fun _ hl =>
    (meets_readDirective hl.cursor).bind fun _ hr =>
      .ok ((hl.push (.directive _) trivial).goTo hr _)

theorem Simple.meets_marker (h : l.Simple) (htoken : token.Simple) :
    Meets Simple Error.Simple (l.marker token) :=
  (h.closeBlocks _).meets_dropKey.bind fun _ hl =>
    .ok ((hl.push token htoken).goTo (hl.cursor.skip 3) _)

theorem Simple.withDepth (h : l.Simple) (depth : Nat) : { l with depth }.Simple :=
  ⟨h.cursor, h.tokens⟩

theorem Simple.meets_openFlow (h : l.Simple) (htoken : token.Simple) :
    Meets Simple Error.Simple (l.openFlow token) :=
  h.meets_markKey.bind fun _ hl =>
    .ok (((hl.withDepth _).push token htoken).goTo hl.cursor.next _)

theorem Simple.meets_closeFlow (h : l.Simple) (htoken : token.Simple) :
    Meets Simple Error.Simple (l.closeFlow token) :=
  h.meets_dropKey.bind fun _ hl =>
    .ok (((hl.withDepth _).push token htoken).goTo hl.cursor.next _)

theorem Simple.meets_comma (h : l.Simple) : Meets Simple Error.Simple l.comma :=
  h.meets_dropKey.bind fun _ hl => .ok ((hl.push .comma trivial).goTo hl.cursor.next _)

theorem meets_requireKeyAllowed (l : Layout) :
    Meets (fun _ => True) Error.Simple l.requireKeyAllowed := by
  rw [requireKeyAllowed]
  split
  · exact .ok trivial
  · exact .error trivial

theorem Simple.meets_item (h : l.Simple) : Meets Simple Error.Simple l.item :=
  (meets_requireKeyAllowed l).bind fun _ _ =>
    (h.openBlock .blockSequence trivial).meets_dropKey.bind fun _ hl =>
      .ok ((hl.push .item trivial).goTo hl.cursor.next _)

theorem Simple.meets_explicitKey (h : l.Simple) : Meets Simple Error.Simple l.explicitKey :=
  (meets_requireKeyAllowed l).bind fun _ _ =>
    (h.openBlock .blockMapping trivial).meets_dropKey.bind fun _ hl =>
      .ok ((hl.push .key trivial).goTo hl.cursor.next _)

theorem Simple.meets_value (h : l.Simple) : Meets Simple Error.Simple l.value := by
  rw [value]
  split
  next layer rest hown =>
    obtain ⟨hlayer, hrest⟩ := h.of_ownLayer? hown
    have hmarks : ∀ token ∈ (if l.opensBlock layer.key.column then [.key, .blockMapping]
        else [.key] : List Token), token.Simple := by
      split
      · exact List.forall_mem_cons.mpr ⟨trivial, List.forall_mem_singleton.mpr trivial⟩
      · exact List.forall_mem_singleton.mpr trivial
    have hadded := hrest.addTokens (List.forall_mem_append.mpr ⟨hlayer, hmarks⟩)
    exact .ok ⟨h.cursor.next, hadded.addTokens (List.forall_mem_singleton.mpr trivial)⟩
  next =>
    exact (meets_requireKeyAllowed l).bind fun _ _ =>
      (h.openBlock .blockMapping trivial).meets_dropKey.bind fun _ hl =>
        .ok ((hl.push .value trivial).goTo hl.cursor.next _)

/-- A token that has been read, and the place after it in a simple document. -/
abbrev ReadsToken (x : Except Error (Token × Bool × Cursor)) : Prop :=
  Meets (fun r => r.1.Simple ∧ r.2.2.Simple) Error.Simple x

theorem Simple.meets_mayBeKey (h : l.Simple)
    {read : Cursor → Except Error (Token × Bool × Cursor)}
    (hread : ∀ c : Cursor, c.Simple → ReadsToken (read c)) :
    Meets Simple Error.Simple (l.mayBeKey read) :=
  h.meets_markKey.bind fun _ hl =>
    (hread _ hl.cursor).bind fun _ hr => .ok ((hl.push _ hr.1).goTo hr.2 _)

theorem Simple.meets_block (h : l.Simple) (folded : Bool) :
    Meets Simple Error.Simple (l.block folded) :=
  h.meets_dropKey.bind fun _ hl =>
    (readsText_readBlock hl.cursor folded _).bind fun _ hr =>
      .ok ((hl.push (.scalar false _) trivial).goTo hr _)

/-- **One step**: the document stays simple, or fails with a fault of simple documents. -/
theorem Simple.meets_next (h : l.Simple) : Meets Simple Error.Simple l.next := by
  rw [next]
  refine h.advance.meets_dropStale.bind fun l hl => ?_
  have hclosed := hl.closeBlocks fun i => l.cursor.column < i
  dsimp only
  split
  next => exact hclosed.meets_finish
  next d hd =>
    have hexclamation : d ≠ '!' := (hl.cursor.peek_ne hd).1
    have hanchor (make : Text → Token) (hmake : ∀ name, (make name).Simple) :
        ∀ c : Cursor, c.Simple →
          ReadsToken ((readAnchor c).map fun r => (make r.1, false, r.2)) :=
      fun c hc => (readsText_readAnchor hc).map fun r hr => ⟨hmake r.1, hr⟩
    have hquoted (double : Bool) : ∀ c : Cursor, c.Simple →
        ReadsToken ((readQuoted double c).map fun r => (.scalar false r.1, false, r.2)) :=
      fun c hc => (readsText_readQuoted hc double).map fun r hr => ⟨trivial, hr⟩
    -- One line for each kind of token; that of a tag does not occur.
    refine .ite (fun _ => hclosed.meets_directive) fun _ => ?_
    refine .ite (fun _ => hclosed.meets_marker ?_) fun _ => ?_
    · split <;> trivial
    refine .ite (fun _ => hclosed.meets_openFlow trivial) fun _ => ?_
    refine .ite (fun _ => hclosed.meets_openFlow trivial) fun _ => ?_
    refine .ite (fun _ => hclosed.meets_closeFlow trivial) fun _ => ?_
    refine .ite (fun _ => hclosed.meets_closeFlow trivial) fun _ => ?_
    refine .ite (fun _ => hclosed.meets_comma) fun _ => ?_
    refine .ite (fun _ => hclosed.meets_item) fun _ => ?_
    refine .ite (fun _ => hclosed.meets_explicitKey) fun _ => ?_
    refine .ite (fun _ => hclosed.meets_value) fun _ => ?_
    refine .ite (fun _ => hclosed.meets_mayBeKey (hanchor .aliasOf fun _ => trivial)) fun _ => ?_
    refine .ite (fun _ => hclosed.meets_mayBeKey (hanchor .anchor fun _ => trivial)) fun _ => ?_
    refine .ite (fun htag => absurd htag hexclamation) fun _ => ?_
    refine .ite (fun _ => hclosed.meets_block false) fun _ => ?_
    refine .ite (fun _ => hclosed.meets_block true) fun _ => ?_
    refine .ite (fun _ => hclosed.meets_mayBeKey (hquoted false)) fun _ => ?_
    refine .ite (fun _ => hclosed.meets_mayBeKey (hquoted true)) fun _ => ?_
    refine .ite (fun _ => hclosed.meets_mayBeKey fun c hc => ?_) fun _ => .error trivial
    obtain ⟨hrest, htext⟩ := readPlain_spec hc _ _
    exact .ok ⟨htext, hrest⟩

/-- **The whole reading.** -/
theorem Simple.of_mem_tokensFrom (h : l.Simple) {limit : Nat} :
    ∀ token ∈ l.tokensFrom limit, token.Simple := by
  have hfaulty {l : Layout} (h : l.Simple) {e : Error} (he : e.Simple) :
      ∀ token ∈ l.faulty e, token.Simple :=
    List.forall_mem_append.mpr
      ⟨fun token htoken => h.tokens.1 token (List.mem_reverse.mp htoken),
        List.forall_mem_singleton.mpr he⟩
  induction limit generalizing l with
  | zero => exact hfaulty h trivial
  | succ limit ih =>
    rw [tokensFrom]
    have hstale := h.meets_dropStale
    split
    next e he => exact hfaulty h (hstale.2 e he)
    next l' hl' =>
      have hl := hstale.1 l' hl'
      have hnext := hl.meets_next
      split
      next e he => exact hfaulty hl (hnext.2 e he)
      next l'' hl'' =>
        split
        · exact fun token htoken => (hnext.1 l'' hl'').tokens.1 token (List.mem_reverse.mp htoken)
        · exact ih (hnext.1 l'' hl'')

end Layout

/-- **The tokens of a simple document** are simple. -/
theorem simple_of_mem_tokens {t : Text} (h : Simple t) : ∀ token ∈ tokens t, token.Simple := by
  rw [tokens]
  split
  · exact (Layout.simple_start h).of_mem_tokensFrom
  · exact List.forall_mem_singleton.mpr trivial

end Yaml

end Substitution
