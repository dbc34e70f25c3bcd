import Mathlib.Data.List.Infix
import Substitution.Pattern.CharacterSet
import Substitution.Proofs.Except

/-!
# Reading forward in a pattern

A cursor in a pattern has a text before it and a text that is **left** (`Substitution.Cursor.left`).
Whatever is read of the pattern, the cursor moves forward only: what is left at the end is an end of
what was left before, and so an end of the pattern. Where characters are taken from the text, they
and what is left behind them make up what was left before
(`Substitution.Cursor.reads_takeUpTo`).

A reading that goes wrong on the way has a place where it does. This is said together with what is
left (`Substitution.PatternError.Reads`), and it goes through the readers of escapes, of sets and of
names in the order in which they read.
-/

namespace Substitution

open Except (Meets)

namespace PatternError

/-- An error that has a place in the pattern. -/
inductive Placed : PatternError → Prop
  | malformed (pattern : Text) (position : Nat) (fault : PatternFault) :
    Placed (.malformed pattern position fault)

/-- **What is read has a property, or the error has a place.** -/
abbrev Reads {α : Type} (P : α → Prop) (x : Except PatternError α) : Prop :=
  Meets P Placed x

end PatternError

/-! ### Tokens -/

namespace PatternToken

/-- **The tokens of a text spell the text.** -/
theorem flatMap_spell_ofText (text : Text) : (ofText text).flatMap spell = text := by
  induction text using ofText.induct with
  | case1 => rfl
  | case2 => rfl
  | case3 c rest ih =>
    rw [ofText, List.flatMap_cons, ih]
    rfl
  | case4 c rest hlast hescaped ih =>
    rw [ofText.eq_4 c rest hlast hescaped, List.flatMap_cons, ih]
    rfl

end PatternToken

namespace Cursor

open PatternError (Reads)

variable {c : Cursor} {whole : Text}

/-- The text that is left. -/
def left (c : Cursor) : Text :=
  c.rest.flatMap PatternToken.spell

/-- **The cursor stands in the text**: what is left is an end of it. -/
def Within (whole : Text) (c : Cursor) : Prop :=
  c.left <:+ whole

theorem left_of_rest {t : PatternToken} {rest : List PatternToken} (h : c.rest = t :: rest) :
    c.left = t.spell ++ rest.flatMap PatternToken.spell := by
  rw [left, h, List.flatMap_cons]

theorem Within.of_append (taken : Text) (h : taken ++ c.left <:+ whole) : Within whole c :=
  (List.suffix_append taken c.left).trans h

/-- A fault at a place is of a usual kind. -/
theorem reads_fail {α : Type} {P : α → Prop} (c : Cursor) (fault : PatternFault) (back : Nat) :
    Reads P (c.fail fault back) :=
  .error (.malformed ..)

/-! ### Steps -/

theorem reads_settle (c : Cursor) : Reads (fun c' => c'.left = c.left) c.settle := by
  rw [settle]
  split
  · exact c.reads_fail _ _
  · exact .ok rfl

theorem reads_start (text : Text) : Reads (fun c => c.left = text) (start text) := by
  have hleft : left ⟨text, 0, PatternToken.ofText text⟩ = text :=
    PatternToken.flatMap_spell_ofText text
  have h := reads_settle ⟨text, 0, PatternToken.ofText text⟩
  rwa [hleft] at h

/-- **A step takes the next token.** -/
theorem reads_advance {t : PatternToken} (h : c.next = some t) :
    Reads (fun c' => c.left = t.spell ++ c'.left) c.advance := by
  obtain ⟨rest, hrest⟩ := List.head?_eq_some_iff.mp h
  have hsettle := reads_settle ⟨c.pattern, c.position + t.spell.length, rest⟩
  rw [advance, hrest, left_of_rest hrest]
  exact ⟨fun c' hc' => congrArg (t.spell ++ ·) (hsettle.1 c' hc').symm, hsettle.2⟩

theorem next_of_nextPlain {d : Char} (h : c.nextPlain = some d) : c.next = some (.plain d) := by
  rw [nextPlain] at h
  split at h
  next hrest =>
    obtain rfl := Option.some.inj h
    rw [next, hrest]
    rfl
  next => cases h

theorem reads_advance_plain {d : Char} (h : c.nextPlain = some d) :
    Reads (fun c' => c.left = d :: c'.left) c.advance :=
  reads_advance (next_of_nextPlain h)

theorem reads_skip? (c : Cursor) (d : Char) :
    Reads (fun o => ∀ c' ∈ o, c.left = d :: c'.left) (c.skip? d) := by
  rw [skip?]
  refine .ite (fun h => (reads_advance_plain h).map fun c' hc' => ?_) fun _ => .ok nofun
  rintro _ ⟨⟩
  exact hc'

/-- **Taken characters have the property asked for**, and with what is left behind them they make up
what was left. -/
theorem reads_takeUpTo (p : Char → Bool) (limit : Nat) (c : Cursor) :
    Reads (fun taken => c.left = taken.1 ++ taken.2.left ∧ ∀ d ∈ taken.1, p d = true)
      (c.takeUpTo p limit) := by
  induction limit generalizing c with
  | zero => exact .ok ⟨rfl, nofun⟩
  | succ limit ih =>
    rw [takeUpTo]
    split
    next d hd =>
      refine .ite (fun hp => ?_) fun _ => .ok ⟨rfl, nofun⟩
      refine (reads_advance_plain hd).bind fun c' hc' => (ih c').bind fun (text, c'') => ?_
      rintro ⟨htext, hall⟩
      refine .ok ⟨?_, List.forall_mem_cons.mpr ⟨hp, hall⟩⟩
      rw [hc', htext, List.cons_append]
    next => exact .ok ⟨rfl, nofun⟩

theorem reads_takeAll (p : Char → Bool) (c : Cursor) :
    Reads (fun taken => c.left = taken.1 ++ taken.2.left ∧ ∀ d ∈ taken.1, p d = true)
      (c.takeAll p) :=
  reads_takeUpTo p _ c

/-! ### Steps within a text -/

theorem Within.of_eq {c' : Cursor} (h : Within whole c) (taken : Text)
    (heq : c.left = taken ++ c'.left) : Within whole c' :=
  .of_append taken (heq ▸ h)

theorem Within.advance (h : Within whole c) : Reads (Within whole) c.advance := by
  cases hnext : c.next with
  | none =>
    rw [Cursor.advance, List.head?_eq_none_iff.mp hnext]
    exact .ok h
  | some t => exact (reads_advance hnext).imp (fun _ hc' => h.of_eq t.spell hc') fun _ he => he

theorem Within.skip? (h : Within whole c) (d : Char) :
    Reads (fun o => ∀ c' ∈ o, Within whole c') (c.skip? d) :=
  (reads_skip? c d).imp (fun _ ho c' hc' => h.of_eq [d] (ho c' hc')) fun _ he => he

theorem Within.takeUpTo (h : Within whole c) (p : Char → Bool) (limit : Nat) :
    Reads (fun taken => Within whole taken.2) (c.takeUpTo p limit) :=
  (reads_takeUpTo p limit c).imp (fun taken htaken => h.of_eq taken.1 htaken.1) fun _ he => he

theorem Within.takeName (h : Within whole c) (terminator : Char) (what read : Text) (limit : Nat) :
    Reads (fun taken => Within whole taken.2) (takeName terminator what read limit c) := by
  induction limit generalizing c read with
  | zero => exact .ok h
  | succ limit ih =>
    rw [Cursor.takeName]
    split
    · exact .ite (fun _ => c.reads_fail _ _) fun _ => c.reads_fail _ _
    · refine h.advance.bind fun c' hc' => .ite (fun _ => ?_) fun _ => ih hc' _
      exact .ite (fun _ => c'.reads_fail _ _) fun _ => .ok hc'

theorem Within.name (h : Within whole c) (terminator : Char) (what : String) :
    Reads (fun taken => Within whole taken.2) (c.name terminator what) :=
  h.takeName terminator what.toList [] _

end Cursor

/-! ### Escapes -/

namespace Escape

open Cursor

open PatternError (Reads)

variable {c : Cursor} {whole : Text}

theorem reads_readHex (h : Within whole c) (e : Char) (digits : Nat) :
    Reads (fun taken => Within whole taken.2) (readHex e digits c) := by
  refine (h.takeUpTo _ _).bind fun (text, c') hc' => ?_
  refine .ite (fun _ => .ite (fun _ => .ok hc') fun _ => ?_) fun _ => ?_
  · exact c'.reads_fail _ _
  · exact c'.reads_fail _ _

theorem reads_readName (h : Within whole c) :
    Reads (fun taken => Within whole taken.2) (readName c) := by
  refine (h.skip? _).bind fun o ho => ?_
  split
  · exact c.reads_fail _ _
  next c' =>
    refine (Within.name (ho c' rfl) _ _).bind fun (name, c'') hc'' => ?_
    dsimp only
    split
    · exact .ok hc''
    · exact c''.reads_fail _ _

theorem reads_octal (h : Within whole c) (digits : Text) :
    Reads (fun taken => Within whole taken.2) (octal digits c) :=
  .ite (fun _ => .ok h) fun _ => c.reads_fail _ _

theorem reads_readCommon (h : Within whole c) (e : Char) :
    Reads (fun taken => Within whole taken.2) (readCommon e c) := by
  have hcode {x : Except PatternError (Nat × Cursor)}
      (hx : Reads (fun taken => Within whole taken.2) x) :
      Reads (fun taken => Within whole taken.2) (x >>= fun taken =>
        .ok (Escape.code taken.1, taken.2)) :=
    hx.bind fun _ hc' => .ok hc'
  refine .ite (fun _ => hcode (reads_readHex h _ _)) fun _ => ?_
  refine .ite (fun _ => hcode (reads_readHex h _ _)) fun _ => ?_
  refine .ite (fun _ => hcode (reads_readHex h _ _)) fun _ => ?_
  refine .ite (fun _ => hcode (reads_readName h)) fun _ => ?_
  exact .ite (fun _ => c.reads_fail _ _) fun _ => .ok h

theorem reads_readInSet (h : Within whole c) (e : Char) :
    Reads (fun taken => Within whole taken.2) (readInSet e c) := by
  rw [readInSet]
  split
  · exact .ok h
  · exact .ok h
  · refine .ite (fun _ => .ok h) fun _ => .ite (fun _ => ?_) fun _ => reads_readCommon h e
    exact (h.takeUpTo _ _).bind fun _ hc' => reads_octal hc' _

theorem reads_readNumber (h : Within whole c) (e : Char) :
    Reads (fun taken => Within whole taken.2) (readNumber e c) := by
  rw [readNumber]
  split
  · refine .ite (fun _ => h.advance.bind fun c' hc' => ?_) fun _ => .ok h
    split
    · exact hc'.advance.bind fun _ hc'' => reads_octal hc'' _
    · exact .ok hc'
  · exact .ok h

theorem reads_read (h : Within whole c) (e : Char) :
    Reads (fun taken => Within whole taken.2) (read e c) := by
  rw [read]
  split
  · exact .ok h
  · exact .ok h
  · exact .ok h
  · refine .ite (fun _ => ?_) fun _ =>
      .ite (fun _ => reads_readNumber h e) fun _ => reads_readCommon h e
    exact (h.takeUpTo _ _).bind fun _ hc' => .ok hc'

end Escape

/-! ### Sets -/

namespace CharacterSet

open Cursor

open PatternError (Reads)

variable {c : Cursor} {whole : Text}

theorem reads_readItem (h : Within whole c) (t : PatternToken) :
    Reads (fun taken => Within whole taken.2) (readItem t c) := by
  cases t with
  | plain d => exact .ok h
  | escaped e => exact (Escape.reads_readInSet h e).map fun _ hc' => hc'
  | dangling => exact c.reads_fail _ _

theorem reads_range (a b : PatternToken) (first last : SetItem) (c : Cursor) :
    Reads (fun _ => True) (range a b first last c) := by
  rw [range.eq_def]
  dsimp only
  split
  · exact .ite (fun _ => c.reads_fail _ _) fun _ => .ok trivial
  · exact c.reads_fail _ _

theorem reads_step (h : Within whole c) (start : Nat) (items : List SetItem) :
    Reads (fun taken => Within whole taken.2.2) (step start items c) := by
  rw [step]
  split
  · exact c.reads_fail _ _
  refine h.advance.bind fun c₁ h₁ => .ite (fun _ => .ok h₁) fun _ => ?_
  refine (reads_readItem h₁ _).bind fun (item, c₂) h₂ => ?_
  refine (Within.skip? h₂ _).bind fun o ho => ?_
  split
  · exact .ok h₂
  next c₃ =>
  have h₃ : Within whole c₃ := ho c₃ rfl
  split
  · exact c₃.reads_fail _ _
  refine h₃.advance.bind fun c₄ h₄ => .ite (fun _ => .ok h₄) fun _ => ?_
  refine (reads_readItem h₄ _).bind fun (last, c₅) h₅ => ?_
  exact (reads_range _ _ _ _ _).bind fun _ _ => .ok h₅

theorem reads_readItems (h : Within whole c) (start limit : Nat) (items : List SetItem) :
    Reads (fun taken => Within whole taken.2) (readItems start limit items c) := by
  induction limit generalizing c items with
  | zero => exact .ok h
  | succ limit ih =>
    refine (reads_step h start items).bind fun (closed, items, c) hc => ?_
    exact .ite (fun _ => .ok hc) fun _ => ih hc _

theorem reads_read (h : Within whole c) :
    Reads (fun taken => Within whole taken.2) (read c) := by
  refine (h.skip? _).bind fun o ho => ?_
  cases o with
  | none => exact (reads_readItems h _ _ _).bind fun _ hc' => .ok hc'
  | some c' => exact (reads_readItems (ho c' rfl) _ _ _).bind fun _ hc'' => .ok hc''

end CharacterSet

end Substitution
